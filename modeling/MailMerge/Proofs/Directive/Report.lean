import MailMerge.Directive.Report

/-!
# What is reported about a failure

A failure is searched from outside in. Descriptions of what was being done are looked through by
all searches, so that only the failure inside of them decides what is found. The error of a
directive is found first, whatever is behind it; a failed file operation comes before an unreadable
document, even if it stands farther inside. Only if nothing is found do the descriptions show, as
they are written in the chain.

## Main definitions

* `Failure.First`: the first failure of a chain that can be read in some way.

## Main results

* `texts_wrapped`, `findSome?_wrapped`: the chain of a failure with descriptions around it.
* `ofFailure_wrapped_directive`: the report about the error of a directive.
* `ofFailure_wrapped`: the report about any failure.
-/

namespace MailMerge

namespace Failure

variable {α : Type} {read : Failure → Option α}

/-! ## Chains -/

/-- The outermost text of a failure with descriptions around it. -/
theorem text_wrapped (doings : List String) (root : Failure) :
    (doings.foldr wrapped root).text = doings.head?.getD root.text := by
  cases doings <;> rfl

/-- The texts of a failure with descriptions around it, from outside in. -/
theorem texts_wrapped (doings : List String) (root : Failure) :
    (doings.foldr wrapped root).chain.map text = doings ++ root.chain.map text := by
  induction doings with
  | nil => rfl
  | cons doing doings ih =>
    rw [List.foldr_cons, chain, List.map_cons, ih]
    rfl

/-- A search that looks through descriptions finds what it finds inside of them. -/
theorem findSome?_wrapped (through : ∀ doing inner, read (wrapped doing inner) = none)
    (doings : List String) (root : Failure) :
    (doings.foldr wrapped root).chain.findSome? read = root.chain.findSome? read := by
  induction doings with
  | nil => rfl
  | cons doing doings ih => rw [List.foldr_cons, chain, List.findSome?_cons, through, ih]

/-- The first failure of a chain that can be read in some way, with what is read. -/
def First (read : Failure → Option α) (chain : List Failure) (a : α) : Prop :=
  ∃ before cause behind, chain = before ++ cause :: behind ∧ read cause = some a ∧
    ∀ other ∈ before, read other = none

theorem findSome?_eq_some_iff_first {chain : List Failure} {a : α} :
    chain.findSome? read = some a ↔ First read chain a :=
  List.findSome?_eq_some_iff

/-- If some failure of a chain can be read, there is a first one. -/
theorem exists_first {chain : List Failure} (h : ∃ cause ∈ chain, (read cause).isSome) :
    ∃ a, First read chain a := by
  obtain ⟨a, found⟩ := Option.isSome_iff_exists.mp (List.findSome?_isSome_iff.mpr h)
  exact ⟨a, findSome?_eq_some_iff_first.mp found⟩

end Failure

namespace Report

open Failure

variable {f : Failure}

/-! ## The errors of directives -/

theorem message_ofDirectiveError (e : DirectiveError) : (ofDirectiveError e).message = e.message := by
  cases e with
  | invalidDirective directive reason =>
    rw [ofDirectiveError]
    split <;> rfl
  | missingAttribute _ _ | missingContext _ _ | missingValue _ _ | serviceFailure _ _ _ => rfl

/-- The first error of a directive is reported for what it is. -/
theorem ofFailure_of_directive {e : DirectiveError} (h : f.chain.findSome? directive? = some e) :
    ofFailure f = ofDirectiveError e := by
  rw [ofFailure, h]

/-- The error of a directive is reported in the same way behind all descriptions. -/
theorem ofFailure_wrapped_directive (doings : List String) (e : DirectiveError) :
    ofFailure (doings.foldr .wrapped (.directive e)) = ofDirectiveError e :=
  ofFailure_of_directive (findSome?_wrapped (fun _ _ => rfl) doings _)

/-! ## Other failures -/

theorem ofFailure_of_file {fault : FileFault} {text : String}
    (noDirective : f.chain.findSome? directive? = none)
    (h : f.chain.findSome? file? = some (fault, text)) :
    ofFailure f = ⟨f.text, some text, fileSuggestion? fault⟩ := by
  rw [ofFailure, noDirective, h]

theorem ofFailure_of_json {text : String} (noDirective : f.chain.findSome? directive? = none)
    (noFile : f.chain.findSome? file? = none) (h : f.chain.findSome? json? = some text) :
    ofFailure f = ⟨f.text, some text, some jsonSuggestion⟩ := by
  rw [ofFailure, noDirective, noFile, h]

/-- If nothing is found, the texts behind the outermost one are the details. -/
theorem ofFailure_of_none (noDirective : f.chain.findSome? directive? = none)
    (noFile : f.chain.findSome? file? = none) (noJson : f.chain.findSome? json? = none) :
    ofFailure f = ⟨f.text,
      if (f.chain.map Failure.text).tail = [] then none
      else some (": ".intercalate (f.chain.map Failure.text).tail), none⟩ := by
  rw [ofFailure, noDirective, noFile, noJson, List.map_tail]
  dsimp only
  split
  · rename_i none
    rw [none]
    rfl
  · rename_i some
    rw [if_neg some]
    rfl

/-- Without the error of a directive the message is the outermost text. -/
theorem message_ofFailure (noDirective : f.chain.findSome? directive? = none) :
    (ofFailure f).message = f.text := by
  cases file : f.chain.findSome? file? with
  | some fault => rw [ofFailure_of_file noDirective file]
  | none =>
    cases document : f.chain.findSome? json? with
    | some text => rw [ofFailure_of_json noDirective file document]
    | none => rw [ofFailure_of_none noDirective file document]

/-- Two faults of files come with a suggestion. -/
theorem isSome_fileSuggestion?_iff {fault : FileFault} :
    (fileSuggestion? fault).isSome ↔ fault = .notFound ∨ fault = .permissionDenied := by
  cases fault <;> decide

/-- **Reports look through descriptions.** The error of a directive is reported in the same way
behind all descriptions of what was being done, with its own text as the message, whatever the
failure of a service behind it contains. The same goes for the first error of a directive in any
chain. Without one, the message is the outermost text. If there is a failed file operation anywhere,
the first one makes the details, and the suggestion if its fault is one of two. Otherwise, if there
is an unreadable document anywhere, the first one makes the details, with the suggestion for
documents. Otherwise the details are the other texts from outside in, if there are any. -/
theorem ofFailure_wrapped (doings : List String) (root : Failure) :
    let report := ofFailure (doings.foldr .wrapped root)
    let texts := doings ++ root.chain.map Failure.text
    (∀ e, root = .directive e → report = ofFailure root ∧ report = ofDirectiveError e ∧
      report.message = e.message) ∧
    (∀ e, First directive? root.chain e → report = ofDirectiveError e) ∧
    ((∀ cause ∈ root.chain, cause.directive? = none) →
      report.message = doings.head?.getD root.text ∧
      ((∃ cause ∈ root.chain, cause.file?.isSome) →
        ∃ fault text, First file? root.chain (fault, text) ∧ report.details = some text ∧
          report.suggestion = fileSuggestion? fault ∧
          (report.suggestion.isSome ↔ fault = .notFound ∨ fault = .permissionDenied)) ∧
      ((∀ cause ∈ root.chain, cause.file? = none) → (∃ cause ∈ root.chain, cause.json?.isSome) →
        ∃ text, First json? root.chain text ∧ report.details = some text ∧
          report.suggestion = some jsonSuggestion) ∧
      ((∀ cause ∈ root.chain, cause.file? = none) → (∀ cause ∈ root.chain, cause.json? = none) →
        report.details = (if texts.tail = [] then none else some (": ".intercalate texts.tail)) ∧
        report.suggestion = none)) := by
  have directives : _ = root.chain.findSome? directive? :=
    findSome?_wrapped (fun _ _ => rfl) doings root
  have files : _ = root.chain.findSome? file? := findSome?_wrapped (fun _ _ => rfl) doings root
  have documents : _ = root.chain.findSome? json? := findSome?_wrapped (fun _ _ => rfl) doings root
  refine ⟨?_, fun e first => ?_, fun none => ?_⟩
  · rintro e rfl
    have report := ofFailure_wrapped_directive doings e
    exact ⟨report.trans (ofFailure_wrapped_directive [] e).symm, report,
      by rw [report, message_ofDirectiveError]⟩
  · exact ofFailure_of_directive (directives.trans (findSome?_eq_some_iff_first.mpr first))
  have noDirective := directives.trans (List.findSome?_eq_none_iff.mpr none)
  refine ⟨?_, fun exists_file => ?_, fun none exists_document => ?_, fun none none' => ?_⟩
  · rw [message_ofFailure noDirective, text_wrapped]
  · obtain ⟨⟨fault, text⟩, first⟩ := exists_first exists_file
    rw [ofFailure_of_file noDirective (files.trans (findSome?_eq_some_iff_first.mpr first))]
    exact ⟨fault, text, first, rfl, rfl, isSome_fileSuggestion?_iff⟩
  · have noFile := files.trans (List.findSome?_eq_none_iff.mpr none)
    obtain ⟨text, first⟩ := exists_first exists_document
    rw [ofFailure_of_json noDirective noFile
      (documents.trans (findSome?_eq_some_iff_first.mpr first))]
    exact ⟨text, first, rfl, rfl⟩
  · have noFile := files.trans (List.findSome?_eq_none_iff.mpr none)
    have noDocument := documents.trans (List.findSome?_eq_none_iff.mpr none')
    rw [ofFailure_of_none noDirective noFile noDocument, texts_wrapped]
    exact ⟨rfl, rfl⟩

/-- A missing token file, with the error of a directive behind it. -/
def missingToken : Failure :=
  .fileFrom .notFound "no token" (.directive (.missingValue "value" "croccroc:title"))

/-- A document whose text could not be obtained, as a file was in the way. -/
def lostDocument : Failure := .jsonFrom "connection lost" (.file .isDirectory "is a directory")

theorem ofFailure_wrapped_mixed :
    ofFailure (.wrapped "Failed to render email.json"
        (.directive (.serviceFailure .mintInviteLink "review" missingToken))) =
      ofDirectiveError (.serviceFailure .mintInviteLink "review" missingToken) ∧
    (ofFailure (.wrapped "Failed to parse tree" lostDocument)).details = some "is a directory" ∧
    (ofFailure (.wrapped "a" (.wrapped "b" (.plain "c")))).details = some "b: c" := by
  obtain ⟨directive, -⟩ := ofFailure_wrapped ["Failed to render email.json"]
    (.directive (.serviceFailure .mintInviteLink "review" missingToken))
  obtain ⟨-, -, file⟩ := ofFailure_wrapped ["Failed to parse tree"] lostDocument
  obtain ⟨-, -, plain⟩ := ofFailure_wrapped ["a", "b"] (.plain "c")
  obtain ⟨-, file, -⟩ := file (by simp [lostDocument, chain, directive?])
  obtain ⟨fault, text, first, details, -⟩ := file
    ⟨.file .isDirectory "is a directory", by simp [lostDocument, chain], rfl⟩
  obtain ⟨-, -, -, plain⟩ := plain (by simp [chain, directive?])
  have found : some (fault, text) = some (.isDirectory, "is a directory") :=
    (findSome?_eq_some_iff_first.mpr first).symm
  cases found
  exact ⟨(directive _ rfl).2.1, details,
    (plain (by simp [chain, file?]) (by simp [chain, json?])).1⟩

end Report

end MailMerge
