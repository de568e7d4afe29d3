import MailMerge.Forms.Http
import MailMerge.Proofs.Directive.Links
import MailMerge.Proofs.Url.Segments

/-!
# Endpoints of forms

The endpoint of a form lies below the URL of the service, and the name of the form is one segment of
it, whatever characters the name has. So requests about different forms go to different places, but
for two names: those of the current and of the parent directory. They are left out of the path, and
requests about these two forms go to the same place.

## Main definitions

* `FormApi.actions`: what is posted about a form.
* `FormApi.IsSlug`: names of forms that links can lead to.

## Main results

* `endpoint_exact`: the parts of an endpoint, and how its form is read off.
* `target_eq_iff`: which requests go to the same place.
* `not_apart`: requests about different forms may go to the same place.
-/

namespace MailMerge.FormApi

open Url (IsName Unbroken segment encodeSegments writeSegments writePart percentDecode utf8)

variable {api : FormApi} {form action : String}

/-! ## Services and forms -/

/-- What is posted about a form. -/
def actions : List String := ["members", "invites"]

/-- Names of forms that links can lead to. -/
structure IsSlug (form : String) : Prop where
  linked : ∃ (n : Node) (c : Context), n.linkTarget c = .ok (.form form)
  unbroken : Unbroken form

/-- A link can lead to any form whose name is not empty. -/
theorem isSlug_iff : IsSlug form ↔ form ≠ "" ∧ Unbroken form := by
  constructor
  · rintro ⟨⟨n, c, target⟩, unbroken⟩
    refine ⟨?_, unbroken⟩
    cases Node.linkTable_iff.mpr target with
    | form slug first filled => exact filled
  · rintro ⟨filled, unbroken⟩
    let link : Node := .inlineDirective "link" [("form", form)]
    exact ⟨⟨link, .sample, Node.linkTable_iff.mp (.form form rfl filled)⟩, unbroken⟩

/-- A service that can be reached has the URL that its settings name. -/
theorem parse_of_ofSettings {s : FormSettings} {environment : Option String}
    {client : Except Failure Client} (h : ofSettings s environment client = .ok api) :
    Url.parse s.apiUrl = .ok api.url := by
  rw [ofSettings] at h
  split at h
  · cases h
  · rename_i url parsed
    split at h
    · cases client with
      | error f => cases h
      | ok client =>
        cases h
        exact parsed
    · cases h

/-! ## The segments of an endpoint -/

theorem segment_forms (special : Bool) : segment special "forms" = "forms".toList := by
  cases special <;> rfl

theorem segment_action (special : Bool) (posted : action ∈ actions) :
    segment special action = action.toList := by
  rcases List.mem_pair.mp posted with rfl | rfl <;> cases special <;> rfl

theorem isName_action (posted : action ∈ actions) : IsName action := by
  rcases List.mem_pair.mp posted with rfl | rfl <;> decide

/-- Only the name of the form could hold a line break. -/
theorem unbroken_parts (unbroken : Unbroken form) (posted : action ∈ actions) :
    ∀ s ∈ ["forms", form, action], Unbroken s := by
  have ends : Unbroken action := by
    rcases List.mem_pair.mp posted with rfl | rfl <;> decide
  intro s mem
  simp only [List.mem_cons, List.not_mem_nil, or_false] at mem
  rcases mem with rfl | rfl | rfl
  · decide
  · exact unbroken
  · exact ends

/-- A form with a name has a segment of its own. -/
theorem encodeSegments_endpoint (special : Bool) (named : IsName form) (posted : action ∈ actions) :
    encodeSegments special ["forms", form, action] =
      ["forms".toList, segment special form, action.toList] := by
  rw [Url.encodeSegments_cons (by decide), Url.encodeSegments_cons named,
    Url.encodeSegments_cons (isName_action posted), segment_forms, segment_action _ posted]
  rfl

/-- A form that is named like a directory has no segment. -/
theorem encodeSegments_endpoint_of_not_isName (special : Bool) (unnamed : ¬ IsName form)
    (posted : action ∈ actions) :
    encodeSegments special ["forms", form, action] = ["forms".toList, action.toList] := by
  rw [Url.encodeSegments_cons (by decide), Url.encodeSegments_cons_of_not_isName unnamed,
    Url.encodeSegments_cons (isName_action posted), segment_forms, segment_action _ posted]
  rfl

theorem route_endpoint (api : FormApi) (unbroken : Unbroken form) (posted : action ∈ actions) :
    (api.endpoint form action).route = .segments (api.url.front ++
      encodeSegments (Url.isSpecial api.url.scheme) ["forms", form, action]) :=
  Url.route_extendPath api.hasPath (by decide) (by decide) (unbroken_parts unbroken posted)

/-! ## Reading an endpoint -/

/-- **An endpoint names its form.** It differs from the URL of the service in its path only, and in
three segments at the end of this path. The second one stands for the form. It does not end early,
however the URL is read, and the bytes of the name are what it is decoded to. -/
theorem endpoint_exact {s : FormSettings} {environment : Option String}
    {client : Except Failure Client} (accepted : ofSettings s environment client = .ok api)
    {configured : Url}
    (parsed : Url.parse s.apiUrl = .ok configured)
    (web : configured.scheme = "http".toList ∨ configured.scheme = "https".toList) :
    ∀ form action, IsName form → Unbroken form → action ∈ actions →
      let u := api.endpoint form action
      let behind := ["forms".toList, segment true form, action.toList]
      (u.scheme = configured.scheme ∧ u.authority = configured.authority ∧
        u.query = configured.query ∧ u.fragment = configured.fragment) ∧
      u.route = .segments (configured.front ++ behind) ∧
      u.writeTarget =
        configured.writeBase ++ writeSegments behind ++ writePart '?' configured.query ∧
      (∀ c ∈ ['/', '?', '#', '\\'], c ∉ segment true form) ∧
      percentDecode (utf8 (segment true form)) = utf8 form.toList ∧
      u ≠ configured := by
  intro form action named unbroken posted u behind
  obtain rfl : api.url = configured :=
    Except.ok.inj ((parse_of_ofSettings accepted).symm.trans parsed)
  have special : Url.isSpecial api.url.scheme = true := by
    rcases web with http | https
    · rw [http]
      decide
    · rw [https]
      decide
  have segments :
      encodeSegments (Url.isSpecial api.url.scheme) ["forms", form, action] = behind := by
    rw [special]
    exact encodeSegments_endpoint true named posted
  refine ⟨⟨Url.extendPath_scheme .., Url.extendPath_authority .., Url.extendPath_query ..,
    Url.extendPath_fragment ..⟩, ?_, ?_, Url.not_mem_segment form,
    Url.percentDecode_segment true unbroken, ?_⟩
  · rw [← segments]
    exact route_endpoint api unbroken posted
  · rw [← segments]
    exact Url.writeTarget_extendPath api.hasPath (by decide) (by decide)
      (unbroken_parts unbroken posted)
  · refine Url.extendPath_ne api.hasPath (by decide) (by decide) (unbroken_parts unbroken posted) ?_
    rw [segments]
    exact Nat.lt_succ_self 2

/-- A service on this machine. -/
def homeSettings : FormSettings := ⟨"http://[::1]/api/?v=1", none, none⟩

/-- The URL of the service on this machine. -/
def homeUrl : Url :=
  ⟨"http".toList, some ⟨⟨[], []⟩, "[::1]".toList, none⟩, .segments ["api".toList, []],
    some "v=1".toList, none⟩

theorem parse_homeSettings : Url.parse homeSettings.apiUrl = .ok homeUrl := by
  have read : (Url.parse homeSettings.apiUrl).toOption = some homeUrl := by decide +kernel
  cases eq : Url.parse homeSettings.apiUrl with
  | error e => simp [eq, Except.toOption] at read
  | ok u => simpa [eq, Except.toOption] using read

theorem ofSettings_homeSettings :
    ofSettings homeSettings none (.ok .plain) = .ok ⟨homeUrl, none, .plain, rfl⟩ := by
  rw [ofSettings]
  simp only [parse_homeSettings]
  rfl

theorem endpoint_exact_home :
    let api : FormApi := ⟨homeUrl, none, .plain, rfl⟩
    ofSettings homeSettings none (.ok .plain) = .ok api ∧
      (api.endpoint "peer review/2" "members").writeTarget =
        "http://[::1]/api/forms/peer%20review%2F2/members?v=1".toList ∧
      api.endpoint "peer review/2" "members" ≠ homeUrl := by
  obtain ⟨-, -, target, -, -, ne⟩ := endpoint_exact ofSettings_homeSettings parse_homeSettings
    (.inl rfl) "peer review/2" "members" (by decide) (by decide) (by decide)
  refine ⟨ofSettings_homeSettings, ?_, ne⟩
  rw [target]
  decide +kernel

/-! ## Requests that go to the same place -/

/-- Endpoints can only be told apart by the action and by the name of the form, if it is one. -/
theorem writeTarget_endpoint_eq_iff (api : FormApi) {f g a b : String} (hf : Unbroken f)
    (hg : Unbroken g) (ha : a ∈ actions) (hb : b ∈ actions) :
    (api.endpoint f a).writeTarget = (api.endpoint g b).writeTarget ↔
      a = b ∧ (f = g ∨ ¬ IsName f ∧ ¬ IsName g) := by
  have namedA := isName_action ha
  have namedB := isName_action hb
  rw [endpoint, endpoint, Url.writeTarget_extendPath_eq_iff api.hasPath (by decide) (by decide)
    (unbroken_parts hf ha) (unbroken_parts hg hb)]
  -- what is left of a form and an action are two segments, or one if the form has no name
  by_cases namedF : IsName f <;> by_cases namedG : IsName g
  · simp [namedF, namedG, namedA, namedB, and_comm]
  · have ne : f ≠ g := fun eq => namedG (eq ▸ namedF)
    simp [namedF, namedG, namedA, namedB, ne]
  · have ne : f ≠ g := fun eq => namedF (eq ▸ namedG)
    simp [namedF, namedG, namedA, namedB, ne]
  · simp [namedF, namedG, namedA, namedB]

/-- **Which requests go to the same place.** Two requests about forms that links can lead to do iff
they have the same action, and are about the same form or about two that are named like directories.
The endpoint of such a form has no segment for it. That of any other form has one, and it is not
empty. -/
theorem target_eq_iff (api : FormApi) :
    ∀ f g, IsSlug f → IsSlug g → ∀ a ∈ actions, ∀ b ∈ actions,
      (∀ x y, (api.request f a x).target = (api.request g b y).target ↔
        a = b ∧ (f = g ∨ ¬ IsName f ∧ ¬ IsName g)) ∧
      ((api.endpoint f a).write = (api.endpoint g b).write ↔
        a = b ∧ (f = g ∨ ¬ IsName f ∧ ¬ IsName g)) ∧
      (IsName f → ∃ name, name ≠ [] ∧ '/' ∉ name ∧ (api.endpoint f a).route =
        .segments (api.url.front ++ ["forms".toList, name, a.toList])) ∧
      (¬ IsName f → (api.endpoint f a).route =
        .segments (api.url.front ++ ["forms".toList, a.toList])) := by
  intro f g slugF slugG a ha b hb
  have same := writeTarget_endpoint_eq_iff api slugF.unbroken slugG.unbroken ha hb
  refine ⟨fun x y => ?_, ?_, fun named => ?_, fun unnamed => ?_⟩
  · rw [← same]
    exact ⟨String.ofList_injective, congrArg String.ofList⟩
  · rw [← same]
    -- the fragment, which is not sent, is the same in both
    have fragment : (api.endpoint f a).fragment = (api.endpoint g b).fragment := by
      rw [endpoint, endpoint, Url.extendPath_fragment, Url.extendPath_fragment]
    rw [Url.write, Url.write, fragment]
    exact ⟨fun eq => List.append_cancel_right (String.ofList_injective eq),
      fun eq => by rw [eq]⟩
  · refine ⟨segment (Url.isSpecial api.url.scheme) f,
      Url.segment_ne_nil (isSlug_iff.mp slugF).1 slugF.unbroken, Url.slash_not_mem_segment _ f, ?_⟩
    rw [route_endpoint api slugF.unbroken ha, encodeSegments_endpoint _ named ha]
  · rw [route_endpoint api slugF.unbroken ha, encodeSegments_endpoint_of_not_isName _ unnamed ha]

theorem target_eq_iff_home :
    let api : FormApi := ⟨homeUrl, none, .plain, rfl⟩
    IsSlug "a/b" ∧ IsSlug "a" ∧ "members" ∈ actions ∧
      (api.request "a/b" "members" .null).target ≠ (api.request "a" "members" .null).target := by
  have slash : IsSlug "a/b" := isSlug_iff.mpr (by decide)
  have plain : IsSlug "a" := isSlug_iff.mpr (by decide)
  have posted : "members" ∈ actions := by decide
  obtain ⟨iff, -⟩ := target_eq_iff ⟨homeUrl, none, .plain, rfl⟩ "a/b" "a" slash plain
    "members" posted "members" posted
  refine ⟨slash, plain, posted, fun eq => ?_⟩
  have shared := (iff .null .null).mp eq
  revert shared
  decide

/-- Tabs are not among the characters that keep two forms apart. -/
example : let api : FormApi := ⟨homeUrl, none, .plain, rfl⟩
    api.endpoint "a\tb" "members" = api.endpoint "ab" "members" := by
  decide +kernel

/-- Requests about different forms are not kept apart, not even if links can lead to both. -/
theorem not_apart : ¬ ∀ (s : FormSettings) (environment : Option String)
    (client : Except Failure Client) (api : FormApi),
    ofSettings s environment client = .ok api → ∀ f g, IsSlug f → IsSlug g → f ≠ g →
      ∀ a ∈ actions, ∀ b ∈ actions, ∀ x y : Json,
        (api.request f a x).target ≠ (api.request g b y).target := by
  intro apart
  have here : IsSlug "." := isSlug_iff.mpr (by decide)
  have above : IsSlug ".." := isSlug_iff.mpr (by decide)
  exact apart homeSettings none (.ok .plain) _ ofSettings_homeSettings "." ".." here above
    (by decide) "members" (by decide) "members" (by decide) .null .null rfl

end MailMerge.FormApi
