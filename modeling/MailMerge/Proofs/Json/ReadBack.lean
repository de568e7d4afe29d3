import MailMerge.Proofs.Json.Token
import MailMerge.Proofs.Json.Value

/-!
# Written values read back

What is written for a value is read back as that value, in one line or indented, wherever it stands:
its numbers and strings are, and blanks around items and members do not count. For that all numbers
have to be whole and fit a word.

The scanner is given a bound on its steps. It takes three of them up to the first item of an array
or the first member of an object, for which there are two brackets, and two up to each further one,
for which there is a comma. So two steps for each character of a text are enough.

## Main definitions

* `Words`: values whose numbers are whole and fit a word.
* `ReadsBack`: values that are read back wherever they stand.

## Main results

* `readsBack`: values, by their items and members.
* `ofText_write`, `read_write`: whole texts.
-/

namespace MailMerge.Json

open Decimal

/-! ## Layout -/

variable {style : Style} {depth : Nat}

theorem skipBlanks_cons {c : Char} (h : isBlank c = false) (cs : List Char) :
    skipBlanks (c :: cs) = c :: cs := by
  rw [skipBlanks, List.dropWhile_cons_of_neg (by simp [h])]

theorem isBlank_of_start {c : Char} (start : c = '-' ∨ isDigit c = true) : isBlank c = false := by
  cases blank : isBlank c with
  | false => rfl
  | true =>
    simp only [isBlank, Bool.or_eq_true, decide_eq_true_eq] at blank
    rcases blank with ((rfl | rfl) | rfl) | rfl <;> rcases start with start | start <;> cases start

theorem skipBlanks_append {blanks : List Char} (h : ∀ c ∈ blanks, isBlank c = true)
    (cs : List Char) : skipBlanks (blanks ++ cs) = skipBlanks cs := by
  rw [skipBlanks, List.dropWhile_append_of_pos h, skipBlanks]

theorem isBlank_newline (style : Style) (depth : Nat) :
    ∀ c ∈ style.newline depth, isBlank c = true := by
  cases style with
  | compact => nofun
  | indented =>
    intro c mem
    rcases List.mem_cons.mp mem with rfl | mem
    · rfl
    · rw [(List.mem_replicate.mp mem).2]
      rfl

theorem skipBlanks_newline (style : Style) (depth : Nat) (cs : List Char) :
    skipBlanks (style.newline depth ++ cs) = skipBlanks cs :=
  skipBlanks_append (isBlank_newline style depth) cs

/-- Only what follows the blanks counts for a value. -/
theorem scanValue_congr {cs cs' : List Char} (h : skipBlanks cs = skipBlanks cs') (bound : Nat) :
    scanValue bound cs = scanValue bound cs' := by
  cases bound with
  | zero => rw [scanValue, scanValue]
  | succ bound =>
    rw [scanValue.eq_def, scanValue.eq_def (bound + 1) cs']
    dsimp only
    rw [h]

/-- What is written for the items behind the first one. -/
def itemsTail (style : Style) (depth : Nat) (items : List Json) : List Char :=
  items.flatMap fun v => ',' :: (style.newline depth ++ chars style depth v)

theorem itemsTail_cons (item : Json) (items : List Json) :
    itemsTail style depth (item :: items) =
      ',' :: (style.newline depth ++ (chars style depth item ++ itemsTail style depth items)) := by
  rw [itemsTail, List.flatMap_cons, List.cons_append, List.append_assoc, itemsTail]

/-- What is written for a member. -/
def memberChars (style : Style) (depth : Nat) (m : String × Json) : List Char :=
  style.newline depth ++
    '"' :: (escapedChars m.1.toList ++ '"' :: (style.colon ++ chars style depth m.2))

/-- What is written for the members behind the first one. -/
def membersTail (style : Style) (depth : Nat) (members : List (String × Json)) : List Char :=
  members.flatMap fun m => ',' :: memberChars style depth m

theorem membersTail_cons (m : String × Json) (members : List (String × Json)) :
    membersTail style depth (m :: members) =
      ',' :: (memberChars style depth m ++ membersTail style depth members) := by
  rw [membersTail, List.flatMap_cons, List.cons_append, membersTail]

theorem itemsChars_cons (item : Json) (items : List Json) :
    itemsChars style depth (item :: items) =
      style.newline depth ++ (chars style depth item ++ itemsTail style depth items) := by
  induction items generalizing item with
  | nil => rw [itemsChars, itemsTail, List.flatMap_nil, List.append_nil]
  | cons next items ih =>
    rw [itemsChars, ih next, itemsTail_cons, List.append_assoc]
    nofun

theorem membersChars_cons (m : String × Json) (members : List (String × Json)) :
    membersChars style depth (m :: members) =
      memberChars style depth m ++ membersTail style depth members := by
  induction members generalizing m with
  | nil => simp [membersChars, memberChars, membersTail, stringChars]
  | cons next members ih =>
    rw [membersChars, ih next, membersTail_cons]
    · simp [memberChars, stringChars]
    · nofun

theorem chars_array_cons (item : Json) (items : List Json) :
    chars style depth (.array (item :: items)) =
      '[' :: (style.newline (depth + 1) ++ (chars style (depth + 1) item ++
        (itemsTail style (depth + 1) items ++ (style.newline depth ++ [']'])))) := by
  rw [chars, itemsChars_cons]
  · simp only [List.append_assoc]
  · nofun

theorem chars_object_cons (m : String × Json) (members : List (String × Json)) :
    chars style depth (.object (m :: members)) =
      '{' :: (memberChars style (depth + 1) m ++
        (membersTail style (depth + 1) members ++ (style.newline depth ++ ['}']))) := by
  rw [chars, membersChars_cons]
  · simp only [List.append_assoc]
  · nofun

/-! ## Values -/

/-- Values whose numbers are whole and fit a word. -/
def Words (v : Json) : Prop := ∀ n ∈ v.numbers, n.isWord = true

instance (v : Json) : Decidable v.Words :=
  inferInstanceAs (Decidable (∀ n ∈ v.numbers, n.isWord = true))

/-- A value starts with a character that neither is blank nor ends a list. -/
theorem exists_start {v : Json} (words : v.Words) (style : Style) (depth : Nat) :
    ∃ c cs, chars style depth v = c :: cs ∧ isBlank c = false ∧ c ≠ ']' := by
  cases v with
  | null => exact ⟨'n', _, rfl, rfl, by decide⟩
  | bool b => cases b <;> exact ⟨_, _, rfl, rfl, by decide⟩
  | string s => exact ⟨'"', _, rfl, rfl, by decide⟩
  | array items => cases items <;> exact ⟨'[', _, rfl, rfl, by decide⟩
  | object members => cases members <;> exact ⟨'{', _, rfl, rfl, by decide⟩
  | number n =>
    obtain ⟨i, rfl, -⟩ := Number.exists_of_isWord (words n (by rw [numbers]; exact List.mem_cons_self))
    obtain ⟨c, cs, digits, start⟩ := exists_start_intChars i
    refine ⟨c, cs, digits, isBlank_of_start start, ?_⟩
    rintro rfl
    rcases start with start | start <;> cases start

/-! ### One step of the scanner -/

variable {bound : Nat} {cs cs' cs'' rest : List Char} {c : Char}

theorem scanItems_close (h : skipBlanks cs = ']' :: rest) (front : Bool) :
    scanItems (bound + 1) front cs = ([], none, rest) := by
  rw [scanItems.eq_def]
  dsimp only
  rw [h]
  rfl

theorem scanItems_front (h : skipBlanks cs = c :: cs') (ne : c ≠ ']') :
    scanItems (bound + 1) true cs = scanItem bound (c :: cs') := by
  rw [scanItems.eq_def]
  dsimp only
  rw [h]
  split <;> simp_all

/-- Behind a comma a list may not end, so the next item is scanned. -/
theorem scanItems_comma (h : skipBlanks cs = ',' :: cs') (h' : skipBlanks cs' = c :: cs'')
    (ne : c ≠ ']') : scanItems (bound + 1) false cs = scanItem bound (c :: cs'') := by
  rw [scanItems.eq_def]
  dsimp only
  rw [h]
  split
  · rename_i eq
    cases eq
  · rename_i eq
    cases eq
  · rename_i eq
    obtain ⟨rfl, rfl⟩ := List.cons.inj eq
    rw [if_neg Bool.false_ne_true, if_pos rfl, h']
    split <;> simp_all

theorem scanMembers_close (h : skipBlanks cs = '}' :: rest) (front : Bool) :
    scanMembers (bound + 1) front cs = ([], none, rest) := by
  rw [scanMembers.eq_def]
  dsimp only
  rw [h]
  rfl

theorem scanMembers_front (h : skipBlanks cs = '"' :: cs') :
    scanMembers (bound + 1) true cs = scanMember bound cs' := by
  rw [scanMembers.eq_def]
  dsimp only
  rw [h]
  rfl

theorem scanMembers_comma (h : skipBlanks cs = ',' :: cs') (h' : skipBlanks cs' = '"' :: cs'') :
    scanMembers (bound + 1) false cs = scanMember bound cs'' := by
  rw [scanMembers.eq_def]
  dsimp only
  rw [h]
  split
  · rename_i eq
    cases eq
  · rename_i eq
    cases eq
  · rename_i eq
    obtain ⟨rfl, rfl⟩ := List.cons.inj eq
    rw [if_neg Bool.false_ne_true, if_pos rfl, h']
    rfl

theorem scanValue_number (start : c = '-' ∨ isDigit c = true) :
    scanValue (bound + 1) (c :: cs) = orBroken c (scanNumber (c :: cs)) .number := by
  rw [scanValue.eq_def]
  dsimp only
  rw [skipBlanks_cons (isBlank_of_start start)]
  -- of the characters that start a value only signs and digits are left
  split
  case h_8 =>
    rename_i c' cs'' _ _ _ _ _ _ eq
    obtain ⟨rfl, rfl⟩ := List.cons.inj eq
    rw [if_pos start]
  all_goals
    rename_i eq
    cases eq
  all_goals rcases start with start | start <;> cases start

theorem scanValue_string (s : String) (rest : List Char) :
    scanValue (bound + 1) (stringChars s ++ rest) = (.string (.ok s), rest) := by
  rw [stringChars, List.cons_append, List.append_assoc, List.singleton_append, scanValue.eq_def]
  dsimp only
  rw [skipBlanks_cons rfl]
  change orBroken '"' (scanString _) Draft.string = _
  rw [scanString_escapedChars, orBroken]

theorem scanValue_array {items : List Draft} (h : scanItems bound true cs = (items, none, rest)) :
    scanValue (bound + 1) ('[' :: cs) = (.array items none, rest) := by
  rw [scanValue.eq_def]
  dsimp only
  rw [skipBlanks_cons rfl]
  change (Draft.array (scanItems bound true cs).1 (scanItems bound true cs).2.1,
    (scanItems bound true cs).2.2) = _
  rw [h]

theorem scanValue_object {members : List (Except Fault String × Draft)}
    (h : scanMembers bound true cs = (members, none, rest)) :
    scanValue (bound + 1) ('{' :: cs) = (.object members none, rest) := by
  rw [scanValue.eq_def]
  dsimp only
  rw [skipBlanks_cons rfl]
  change (Draft.object (scanMembers bound true cs).1 (scanMembers bound true cs).2.1,
    (scanMembers bound true cs).2.2) = _
  rw [h]

/-- What stands between a key and its value does not count. -/
theorem exists_colon (style : Style) :
    ∃ blanks, style.colon = ':' :: blanks ∧ ∀ c ∈ blanks, isBlank c = true := by
  cases style with
  | compact => exact ⟨[], rfl, nofun⟩
  | indented => exact ⟨[' '], rfl, by simp [isBlank]⟩

/-! ### Whole values -/

/-- A value is read back wherever it stands, and what follows it is left. -/
def ReadsBack (style : Style) (v : Json) : Prop :=
  ∀ (depth bound : Nat) (rest : List Char), 2 * (chars style depth v).length ≤ bound → Ends rest →
    scanValue bound (chars style depth v ++ rest) = (Draft.ofJson v, rest)

theorem ends_newline (style : Style) (depth : Nat) {c : Char}
    (h : isDigit c = false ∧ c ≠ '.' ∧ c ≠ 'e' ∧ c ≠ 'E') (rest : List Char) :
    Ends (style.newline depth ++ c :: rest) := by
  cases style with
  | compact => exact ends_cons h rest
  | indented => exact ends_cons (by decide) _

/-- An item is read back, and so are the ones behind it. -/
theorem scanItem_chars (depth : Nat) {v : Json} (reads : ReadsBack style v) {tail : List Char}
    {drafts : List Draft} (room : 2 * (chars style depth v).length ≤ bound) (ends : Ends tail)
    (behind : scanItems bound false tail = (drafts, none, rest)) :
    scanItem (bound + 1) (chars style depth v ++ tail) =
      (Draft.ofJson v :: drafts, none, rest) := by
  rw [scanItem, reads depth bound tail room ends]
  dsimp only
  rw [behind]

/-- A member is read back, and so are the ones behind it. -/
theorem scanMember_chars (depth : Nat) (key : String) {v : Json} (reads : ReadsBack style v)
    {tail : List Char} {drafts : List (Except Fault String × Draft)}
    (room : 2 * (chars style depth v).length ≤ bound) (ends : Ends tail)
    (behind : scanMembers bound false tail = (drafts, none, rest)) :
    scanMember (bound + 1)
        (escapedChars key.toList ++ '"' :: (style.colon ++ chars style depth v) ++ tail) =
      ((.ok key, Draft.ofJson v) :: drafts, none, rest) := by
  obtain ⟨blanks, colon, front⟩ := exists_colon style
  have value : scanValue bound (blanks ++ (chars style depth v ++ tail)) =
      (Draft.ofJson v, tail) := by
    rw [scanValue_congr (skipBlanks_append front _), reads depth bound tail room ends]
  rw [scanMember, List.append_assoc, List.cons_append, scanString_escapedChars, colon]
  dsimp only
  rw [List.append_assoc, List.cons_append, skipBlanks_cons rfl]
  let found := scanValue bound (blanks ++ (chars style depth v ++ tail))
  change ((Except.ok key, found.1) :: (scanMembers bound false found.2).1,
    (scanMembers bound false found.2).2) = _
  rw [show found = (Draft.ofJson v, tail) from value, behind]

theorem ends_itemsTail (depth : Nat) (items : List Json) (depth' : Nat) (rest : List Char) :
    Ends (itemsTail style depth items ++ (style.newline depth' ++ ']' :: rest)) := by
  cases items with
  | nil => exact ends_newline style depth' (by decide) rest
  | cons => exact ends_cons (by decide) _

theorem ends_membersTail (depth : Nat) (members : List (String × Json)) (depth' : Nat)
    (rest : List Char) :
    Ends (membersTail style depth members ++ (style.newline depth' ++ '}' :: rest)) := by
  cases members with
  | nil => exact ends_newline style depth' (by decide) rest
  | cons => exact ends_cons (by decide) _

/-- Items are read back one after the other, up to the end of the list. -/
theorem scanItems_itemsTail {items : List Json} (reads : ∀ v ∈ items, ReadsBack style v)
    (words : ∀ v ∈ items, v.Words) {depth' : Nat}
    (room : 2 * (itemsTail style depth items).length + 1 ≤ bound) :
    scanItems bound false (itemsTail style depth items ++ (style.newline depth' ++ ']' :: rest)) =
      (Draft.ofItems items, none, rest) := by
  induction items generalizing bound with
  | nil =>
    obtain ⟨bound, rfl⟩ := Nat.exists_eq_add_of_le' room
    apply scanItems_close
    rw [itemsTail, List.flatMap_nil, List.nil_append, skipBlanks_newline, skipBlanks_cons rfl]
  | cons v items ih =>
    obtain ⟨here, reads⟩ := List.forall_mem_cons.mp reads
    obtain ⟨word, words⟩ := List.forall_mem_cons.mp words
    obtain ⟨c, cs, start, blank, ne⟩ := exists_start word style depth
    rw [itemsTail_cons] at room ⊢
    simp only [List.length_cons, List.length_append] at room
    -- two steps lead up to the item, and the comma makes room for them
    obtain ⟨bound, rfl⟩ := Nat.exists_eq_add_of_le' (show 2 ≤ bound by omega)
    have step := scanItem_chars depth here (by omega)
      (ends_itemsTail depth items depth' rest) (ih reads words (show _ ≤ bound by omega))
    rw [start, List.cons_append] at step
    rw [Draft.ofItems, ← step, List.cons_append]
    refine scanItems_comma (skipBlanks_cons rfl _) ?_ ne
    rw [List.append_assoc, skipBlanks_newline, start, List.append_assoc, List.cons_append,
      skipBlanks_cons blank]

/-- Members are read back one after the other, up to the end of the object. -/
theorem scanMembers_membersTail {members : List (String × Json)}
    (reads : ∀ m ∈ members, ReadsBack style m.2) {depth' : Nat}
    (room : 2 * (membersTail style depth members).length + 1 ≤ bound) :
    scanMembers bound false
        (membersTail style depth members ++ (style.newline depth' ++ '}' :: rest)) =
      (Draft.ofMembers members, none, rest) := by
  induction members generalizing bound with
  | nil =>
    obtain ⟨bound, rfl⟩ := Nat.exists_eq_add_of_le' room
    apply scanMembers_close
    rw [membersTail, List.flatMap_nil, List.nil_append, skipBlanks_newline, skipBlanks_cons rfl]
  | cons m members ih =>
    obtain ⟨here, reads⟩ := List.forall_mem_cons.mp reads
    rw [membersTail_cons, memberChars] at room ⊢
    simp only [List.length_cons, List.length_append] at room
    obtain ⟨bound, rfl⟩ := Nat.exists_eq_add_of_le' (show 2 ≤ bound by omega)
    have step := scanMember_chars depth m.1 here (by omega)
      (ends_membersTail depth members depth' rest) (ih reads (show _ ≤ bound by omega))
    rw [Draft.ofMembers, ← step, List.cons_append]
    refine scanMembers_comma (skipBlanks_cons rfl _) ?_
    rw [List.append_assoc, List.append_assoc, skipBlanks_newline, List.cons_append,
      skipBlanks_cons rfl]

/-- A value whose numbers are whole is read back. -/
theorem readsBack (style : Style) {v : Json} (words : v.Words) : ReadsBack style v := by
  induction v using Json.induction with
  | null =>
    intro depth bound rest room ends
    obtain ⟨bound, rfl⟩ := Nat.exists_eq_add_of_le' (Nat.le_trans (by decide : 1 ≤ 8) room)
    rfl
  | bool b =>
    intro depth bound rest room ends
    cases b with
    | true =>
      obtain ⟨bound, rfl⟩ := Nat.exists_eq_add_of_le' (Nat.le_trans (by decide : 1 ≤ 8) room)
      rfl
    | false =>
      obtain ⟨bound, rfl⟩ := Nat.exists_eq_add_of_le' (Nat.le_trans (by decide : 1 ≤ 10) room)
      rfl
  | string s =>
    intro depth bound rest room ends
    rw [chars, stringChars, List.length_cons] at room
    obtain ⟨bound, rfl⟩ := Nat.exists_eq_add_of_le' (show 1 ≤ bound by omega)
    exact scanValue_string s rest
  | number n =>
    intro depth bound rest room ends
    obtain ⟨i, rfl, fits⟩ :=
      Number.exists_of_isWord (words n (by rw [numbers]; exact List.mem_cons_self))
    obtain ⟨c, cs, digits, start⟩ := exists_start_intChars i
    have number := scanNumber_intChars fits ends
    rw [chars, Number.chars, digits] at room ⊢
    rw [digits] at number
    rw [List.length_cons] at room
    obtain ⟨bound, rfl⟩ := Nat.exists_eq_add_of_le' (show 1 ≤ bound by omega)
    rw [List.cons_append] at number ⊢
    rw [scanValue_number start, number]
    rfl
  | array items ih =>
    intro depth bound rest room ends
    have words : ∀ v ∈ items, v.Words := by
      intro v mem n here
      exact words n (by rw [numbers_array]; exact List.mem_flatMap.mpr ⟨v, mem, here⟩)
    -- the first item stands behind a bracket, all others stand behind a comma
    cases items with
    | nil =>
      obtain ⟨bound, rfl⟩ := Nat.exists_eq_add_of_le' (Nat.le_trans (by decide : 2 ≤ 4) room)
      exact scanValue_array (scanItems_close (skipBlanks_cons rfl rest) true)
    | cons v items =>
      obtain ⟨here, reads⟩ := List.forall_mem_cons.mp fun v mem => ih v mem (words v mem)
      obtain ⟨word, words⟩ := List.forall_mem_cons.mp words
      obtain ⟨c, cs, start, blank, ne⟩ := exists_start word style (depth + 1)
      rw [chars_array_cons] at room ⊢
      simp only [List.length_cons, List.length_append] at room
      obtain ⟨bound, rfl⟩ := Nat.exists_eq_add_of_le' (show 3 ≤ bound by omega)
      have step := scanItem_chars (depth + 1) here (by omega)
        (ends_itemsTail (depth + 1) items depth rest)
        (scanItems_itemsTail reads words (show _ ≤ bound by omega))
      rw [start, List.cons_append] at step
      simp only [List.cons_append, List.append_assoc, List.nil_append, start]
      rw [Draft.ofJson, Draft.ofItems]
      apply scanValue_array
      rw [← step]
      refine scanItems_front ?_ ne
      rw [skipBlanks_newline, skipBlanks_cons blank]
  | object members ih =>
    intro depth bound rest room ends
    have words : ∀ m ∈ members, m.2.Words := by
      intro m mem n here
      exact words n (by rw [numbers_object]; exact List.mem_flatMap.mpr ⟨m, mem, here⟩)
    cases members with
    | nil =>
      obtain ⟨bound, rfl⟩ := Nat.exists_eq_add_of_le' (Nat.le_trans (by decide : 2 ≤ 4) room)
      exact scanValue_object (scanMembers_close (skipBlanks_cons rfl rest) true)
    | cons m members =>
      obtain ⟨here, reads⟩ := List.forall_mem_cons.mp fun m mem => ih m mem (words m mem)
      rw [chars_object_cons, memberChars] at room ⊢
      simp only [List.length_cons, List.length_append] at room
      obtain ⟨bound, rfl⟩ := Nat.exists_eq_add_of_le' (show 3 ≤ bound by omega)
      have step := scanMember_chars (depth + 1) m.1 here (by omega)
        (ends_membersTail (depth + 1) members depth rest)
        (scanMembers_membersTail reads (show _ ≤ bound by omega))
      simp only [List.cons_append, List.append_assoc, List.nil_append] at step ⊢
      rw [Draft.ofJson, Draft.ofMembers]
      apply scanValue_object
      rw [← step]
      apply scanMembers_front
      rw [skipBlanks_newline, skipBlanks_cons rfl]

/-- **Written values read back.** The draft of a text that has been written for a value, in one line
or indented, is the draft of the value, and nothing follows it. -/
theorem ofText_write (style : Style) {v : Json} (words : v.Words) :
    Draft.ofText (v.write style).toList = (Draft.ofJson v, []) := by
  have read := readsBack style words 0 (3 * (chars style 0 v).length + 3) [] (by omega) ends_nil
  rw [List.append_nil] at read
  rw [write, String.toList_ofList, Draft.ofText, read]

/-- A reader of drafts makes of a written value what it makes of the value. -/
theorem read_write {α : Type} (reader : Nat → Draft → Read α) (style : Style) {v : Json}
    (words : v.Words) : Json.read reader (v.write style) = reader nesting (Draft.ofJson v) := by
  rw [Json.read, ofText_write style words]
  dsimp only
  cases reader nesting (Draft.ofJson v) <;> rfl

end MailMerge.Json
