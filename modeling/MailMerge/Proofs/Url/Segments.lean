import MailMerge.Proofs.Url.Percent
import MailMerge.Url.Basic

/-!
# Paths with more segments

Segments that are put behind a path are encoded one by one, so none of them can end early or be
taken for several. Only names that mean a directory are left out, and in any other text tabs and
line breaks. So which texts without them have been put behind a path can be told from the URL as it
is sent.

## Main definitions

* `IsName`: texts that become a segment.
* `Unbroken`: texts without tabs and line breaks.
* `segment`, `encodeSegments`: the segment that a text becomes, and those of several texts.
* `front`, `writeBase`: what the segments of a URL are put behind.

## Main results

* `not_mem_segment`: nothing in a segment ends it.
* `route_extendPath`: every text that has a name becomes one segment.
* `writeTarget_extendPath`: a URL with more segments, as it is sent.
* `writeTarget_extendPath_eq_iff`: which segments lead to the same place.
-/

namespace MailMerge.Url

variable {u : Url} {special : Bool} {name : String}

/-! ## Segments -/

/-- Texts that do not mean the current or the parent directory. -/
def IsName (s : String) : Prop := s ≠ "." ∧ s ≠ ".."

instance (s : String) : Decidable (IsName s) := inferInstanceAs (Decidable (_ ∧ _))

/-- Texts without tabs and line breaks. -/
def Unbroken (s : String) : Prop := ∀ c ∈ s.toList, isBreak c = false

instance (s : String) : Decidable (Unbroken s) :=
  List.decidableBAll (fun c => isBreak c = false) s.toList

theorem withoutBreaks_eq_self (unbroken : Unbroken name) :
    withoutBreaks name.toList = name.toList :=
  List.filter_eq_self.mpr fun c mem => by rw [unbroken c mem]; rfl

/-- The segment that a text becomes. -/
def segment (special : Bool) (s : String) : List Char :=
  percentEncode (inSegment special) (withoutBreaks s.toList)

/-- The segments that the texts with a name become. -/
def encodeSegments (special : Bool) (segments : List String) : List (List Char) :=
  (segments.filter (IsName ·)).map (segment special)

theorem encodeSegments_cons (named : IsName name) (rest : List String) :
    encodeSegments special (name :: rest) =
      segment special name :: encodeSegments special rest := by
  rw [encodeSegments, List.filter_cons_of_pos (by simpa using named), List.map_cons]
  rfl

theorem encodeSegments_cons_of_not_isName (unnamed : ¬ IsName name) (rest : List String) :
    encodeSegments special (name :: rest) = encodeSegments special rest := by
  rw [encodeSegments, List.filter_cons_of_neg (by simpa using unnamed)]
  rfl

theorem reversible_inSegment (special : Bool) : Reversible (inSegment special) where
  ascii b plain := by
    simp only [inSegment, inPath, inFragment, Bool.or_eq_false_iff] at plain
    obtain ⟨⟨⟨⟨control, -⟩, -⟩, -⟩, -⟩ := plain
    exact ascii_of_isControl_eq_false control
  percent := by cases special <;> rfl

theorem segment_inj {s t : String} (unbrokenS : Unbroken s) (unbrokenT : Unbroken t)
    (eq : segment special s = segment special t) : s = t := by
  rw [segment, segment, withoutBreaks_eq_self unbrokenS, withoutBreaks_eq_self unbrokenT] at eq
  exact String.toList_injective ((reversible_inSegment special).percentEncode_injective eq)

theorem segment_ne_nil (filled : name ≠ "") (unbroken : Unbroken name) :
    segment special name ≠ [] := fun empty =>
  filled (segment_inj unbroken (t := "") (by decide) empty)

theorem map_segment_inj {ss ts : List String} (unbrokenS : ∀ s ∈ ss, Unbroken s)
    (unbrokenT : ∀ t ∈ ts, Unbroken t) (eq : ss.map (segment special) = ts.map (segment special)) :
    ss = ts := by
  induction ss generalizing ts with
  | nil => exact (List.map_eq_nil_iff.mp eq.symm).symm
  | cons s ss ih =>
    cases ts with
    | nil => cases eq
    | cons t ts =>
      obtain ⟨hs, restS⟩ := List.forall_mem_cons.mp unbrokenS
      obtain ⟨ht, restT⟩ := List.forall_mem_cons.mp unbrokenT
      obtain ⟨first, rest⟩ := List.cons.inj eq
      rw [segment_inj hs ht first, ih restS restT rest]

/-- The bytes of a text can be read off its segment. -/
theorem percentDecode_segment (special : Bool) (unbroken : Unbroken name) :
    percentDecode (utf8 (segment special name)) = utf8 name.toList := by
  rw [segment, withoutBreaks_eq_self unbroken]
  exact (reversible_inSegment special).percentDecode_percentEncode name.toList

/-- A segment is a single one. -/
theorem slash_not_mem_segment (special : Bool) (s : String) : '/' ∉ segment special s :=
  (reversible_inSegment special).not_mem_percentEncode (by cases special <;> rfl) (by decide)
    (by decide) (withoutBreaks s.toList)

/-- Nothing in a segment of a special URL ends the segment or the path: there a backslash is taken
for a slash, and it is encoded, too. -/
theorem not_mem_segment (s : String) : ∀ c ∈ ['/', '?', '#', '\\'], c ∉ segment true s := by
  intro c mem
  have apart : inSegment true (byte c) = true ∧ c ≠ '%' ∧ ∀ n < 16, c ≠ Text.hexCapital n := by
    simp only [List.mem_cons, List.not_mem_nil, or_false] at mem
    rcases mem with rfl | rfl | rfl | rfl <;> decide
  obtain ⟨must, sign, digit⟩ := apart
  exact (reversible_inSegment true).not_mem_percentEncode must sign digit (withoutBreaks s.toList)

/-! ## Segments in a row -/

theorem writeSegments_append (ss ts : List (List Char)) :
    writeSegments (ss ++ ts) = writeSegments ss ++ writeSegments ts := List.flatMap_append

/-- A segment without slashes ends where the next one begins. -/
theorem takeWhile_append_writeSegments {s : List Char} (free : '/' ∉ s)
    (ss : List (List Char)) : (s ++ writeSegments ss).takeWhile (· ≠ '/') = s := by
  have all : ∀ c ∈ s, decide (c ≠ '/') = true := fun c mem =>
    decide_eq_true fun eq => free (eq ▸ mem)
  rw [List.takeWhile_append_of_pos all]
  cases ss <;> simp [writeSegments]

/-- Segments without slashes can be told from what they are written as. -/
theorem eq_of_writeSegments_eq {ss ts : List (List Char)} (freeS : ∀ s ∈ ss, '/' ∉ s)
    (freeT : ∀ t ∈ ts, '/' ∉ t) (eq : writeSegments ss = writeSegments ts) : ss = ts := by
  induction ss generalizing ts with
  | nil =>
    cases ts with
    | nil => rfl
    | cons t ts => cases eq
  | cons s ss ih =>
    cases ts with
    | nil => cases eq
    | cons t ts =>
      obtain ⟨hs, restS⟩ := List.forall_mem_cons.mp freeS
      obtain ⟨ht, restT⟩ := List.forall_mem_cons.mp freeT
      -- both first segments end at the first slash behind them
      have behind : s ++ writeSegments ss = t ++ writeSegments ts := (List.cons.inj eq).2
      have first : s = t := by
        rw [← takeWhile_append_writeSegments hs ss, behind, takeWhile_append_writeSegments ht]
      subst first
      rw [ih restS restT (List.append_cancel_left behind)]

/-! ## Behind a path -/

/-- The segments that others are put behind. -/
def front (u : Url) : List (List Char) :=
  match u.route with
  | .segments path => frontSegments u.authority.isSome path
  | .text _ => []

theorem frontSegments_ne (authority : Bool) (path : List (List Char)) :
    frontSegments authority path ≠ [[]] := by
  rw [frontSegments]
  split
  · decide
  · rw [withoutBareSlash]
    split
    · exact (List.cons_ne_nil _ _).symm
    · assumption

/-- A bare slash is no front. -/
theorem front_ne (u : Url) : u.front ≠ [[]] := by
  rw [front]
  split
  · exact frontSegments_ne _ _
  · exact (List.cons_ne_nil _ _).symm

/-- A path with something behind it that does not begin with two slashes. -/
def writeFront (authority : Bool) : List (List Char) → List Char
  | [] :: ss => (if authority then [] else ['/', '.']) ++ writeSegments ([] :: ss)
  | ss => writeSegments ss

/-- The text that more segments are put behind. -/
def writeBase (u : Url) : List Char :=
  u.scheme ++ ':' :: ((u.authority.map Authority.write).getD [] ++
    writeFront u.authority.isSome u.front)

theorem front_of_route {path : List (List Char)} (route : u.route = .segments path) :
    u.front = frontSegments u.authority.isSome path := by
  rw [front, route]

/-- A text that means a directory is left out. -/
theorem addSegment_of_not_isName (path : List (List Char)) (unnamed : ¬ IsName name) :
    addSegment special path name = path := by
  rw [IsName, ← not_or, not_not] at unnamed
  rw [addSegment, if_pos unnamed]

/-- Any other text becomes one segment, unless it means a directory without its line breaks. -/
theorem addSegment_of_isName (path : List (List Char)) (named : IsName name)
    (unbroken : Unbroken name) :
    addSegment special path name = withoutBareSlash path ++ [segment special name] := by
  have whole := withoutBreaks_eq_self unbroken
  have here : name.toList ≠ ['.'] := fun eq => named.1 (String.toList_injective eq)
  have above : name.toList ≠ ['.', '.'] := fun eq => named.2 (String.toList_injective eq)
  rw [addSegment, segment, whole, if_neg (not_or.mpr named), if_neg here, if_neg above]

theorem withoutBareSlash_of_ne {path : List (List Char)} (h : path ≠ [[]]) :
    withoutBareSlash path = path := by
  rw [withoutBareSlash, if_neg h]

/-- Behind something that is not empty, texts without line breaks become one segment each. -/
theorem foldl_addSegment {path : List (List Char)} (some_text : ∃ s ∈ path, s ≠ [])
    {segments : List String} (unbroken : ∀ s ∈ segments, Unbroken s) :
    segments.foldl (addSegment special) path = path ++ encodeSegments special segments := by
  induction segments generalizing path with
  | nil => exact (List.append_nil path).symm
  | cons name rest ih =>
    obtain ⟨first, others⟩ := List.forall_mem_cons.mp unbroken
    rw [List.foldl_cons]
    by_cases named : IsName name
    · -- what is not empty stays in the path, so the path is never a bare slash
      obtain ⟨s, mem, filled⟩ := some_text
      have ne : path ≠ [[]] := by
        rintro rfl
        exact filled (List.mem_singleton.mp mem)
      rw [addSegment_of_isName path named first, withoutBareSlash_of_ne ne,
        ih ⟨s, List.mem_append_left _ mem, filled⟩ others, encodeSegments_cons named,
        List.append_assoc]
      rfl
    · rw [addSegment_of_not_isName path named, ih some_text others,
        encodeSegments_cons_of_not_isName named]

/-- Behind a first text that has a name, every text that has one becomes one segment. -/
theorem route_extendPath (h : u.hasPath = true) (named : IsName name) (filled : name ≠ "")
    {rest : List String} (unbroken : ∀ s ∈ name :: rest, Unbroken s) :
    (u.extendPath (name :: rest)).route =
      .segments (u.front ++ encodeSegments (isSpecial u.scheme) (name :: rest)) := by
  rw [hasPath] at h
  split at h
  · rename_i path route
    obtain ⟨first, others⟩ := List.forall_mem_cons.mp unbroken
    have some_text : ∃ s ∈ u.front ++ [segment (isSpecial u.scheme) name], s ≠ [] :=
      ⟨_, List.mem_append_right _ (List.mem_singleton_self _), segment_ne_nil filled first⟩
    rw [extendPath, route]
    dsimp only
    rw [← front_of_route route, List.foldl_cons, addSegment_of_isName _ named first,
      withoutBareSlash_of_ne (front_ne u), foldl_addSegment some_text others,
      encodeSegments_cons named, List.append_assoc]
    rfl
  · cases h

theorem Route.write_append (authority : Bool) (front : List (List Char)) {s : List Char}
    (filled : s ≠ []) (rest : List (List Char)) :
    Route.write authority (.segments (front ++ s :: rest)) =
      writeFront authority front ++ writeSegments (s :: rest) := by
  cases front with
  | nil =>
    cases s with
    | nil => exact absurd rfl filled
    | cons c s => rfl
  | cons first front =>
    cases first with
    | nil =>
      -- whatever the front is, something stands behind its empty segment
      have more : ∃ t ts, front ++ s :: rest = t :: ts := by cases front <;> simp
      obtain ⟨t, ts, eq⟩ := more
      rw [List.cons_append, eq, Route.write, ← eq, ← List.cons_append, writeSegments_append,
        writeFront, List.append_assoc]
    | cons c first => exact writeSegments_append ((c :: first) :: front) (s :: rest)

/-- A URL with more segments, as it is sent. -/
theorem writeTarget_extendPath (h : u.hasPath = true) (named : IsName name) (filled : name ≠ "")
    {rest : List String} (unbroken : ∀ s ∈ name :: rest, Unbroken s) :
    (u.extendPath (name :: rest)).writeTarget =
      u.writeBase ++ writeSegments (encodeSegments (isSpecial u.scheme) (name :: rest)) ++
        writePart '?' u.query := by
  have first : Unbroken name := (List.forall_mem_cons.mp unbroken).1
  rw [writeTarget, extendPath_scheme, extendPath_authority, extendPath_query,
    route_extendPath h named filled unbroken, encodeSegments_cons named,
    Route.write_append _ _ (segment_ne_nil filled first), writeBase]
  simp only [List.append_assoc, List.cons_append]

/-- Which segments lead to the same place: those that become the same segments of the path. -/
theorem writeTarget_extendPath_eq_iff (h : u.hasPath = true) (named : IsName name)
    (filled : name ≠ "") {ss ts : List String} (unbrokenS : ∀ s ∈ name :: ss, Unbroken s)
    (unbrokenT : ∀ t ∈ name :: ts, Unbroken t) :
    (u.extendPath (name :: ss)).writeTarget = (u.extendPath (name :: ts)).writeTarget ↔
      ss.filter (IsName ·) = ts.filter (IsName ·) := by
  have free (segments : List String) :
      ∀ s ∈ encodeSegments (isSpecial u.scheme) segments, '/' ∉ s := by
    intro s mem
    obtain ⟨text, -, rfl⟩ := List.mem_map.mp mem
    exact slash_not_mem_segment _ text
  rw [writeTarget_extendPath h named filled unbrokenS,
    writeTarget_extendPath h named filled unbrokenT, List.append_left_inj, List.append_right_inj]
  constructor
  · intro eq
    have same := eq_of_writeSegments_eq (free (name :: ss)) (free (name :: ts)) eq
    rw [encodeSegments_cons named, encodeSegments_cons named] at same
    refine map_segment_inj (fun s mem => ?_) (fun t mem => ?_) (List.cons.inj same).2
    · exact unbrokenS s (List.mem_cons_of_mem _ (List.mem_of_mem_filter mem))
    · exact unbrokenT t (List.mem_cons_of_mem _ (List.mem_of_mem_filter mem))
  · intro eq
    rw [encodeSegments_cons named, encodeSegments_cons named, encodeSegments, eq, ← encodeSegments]

theorem length_withoutFinalSlash (path : List (List Char)) :
    path.length ≤ (withoutFinalSlash path).length + 1 := by
  rw [withoutFinalSlash]
  split
  · rw [List.length_dropLast]
    omega
  · omega

theorem length_withoutBareSlash (path : List (List Char)) :
    path.length ≤ (withoutBareSlash path).length + 1 := by
  rw [withoutBareSlash]
  split
  · rename_i bare
    rw [bare]
    rfl
  · omega

/-- At most two empty segments at the end of a path give way to others. -/
theorem length_le_frontSegments (authority : Bool) (path : List (List Char)) :
    path.length ≤ (frontSegments authority path).length + 2 := by
  rw [frontSegments]
  split
  · rename_i both
    rw [both.2]
    decide
  · have final := length_withoutFinalSlash path
    have bare := length_withoutBareSlash (withoutFinalSlash path)
    omega

/-- Three more segments are never lost. -/
theorem extendPath_ne (h : u.hasPath = true) (named : IsName name) (filled : name ≠ "")
    {rest : List String} (unbroken : ∀ s ∈ name :: rest, Unbroken s)
    (many : 2 < (encodeSegments (isSpecial u.scheme) (name :: rest)).length) :
    u.extendPath (name :: rest) ≠ u := by
  intro same
  have route := route_extendPath h named filled unbroken
  rw [same] at route
  have bound := length_le_frontSegments u.authority.isSome
    (u.front ++ encodeSegments (isSpecial u.scheme) (name :: rest))
  rw [← front_of_route route, List.length_append] at bound
  omega

end MailMerge.Url
