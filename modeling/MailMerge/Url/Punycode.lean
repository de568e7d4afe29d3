/-!
# Labels in ASCII

A label with characters beyond ASCII is written with its ASCII characters first, followed by
a number that says where each of the other characters goes, smallest character first. The
number is written in digits whose weights adapt to the numbers before.

## Main definitions

* `Punycode.encode`: the ASCII form of a label.
* `Punycode.decode?`: the label that has an ASCII form.

## Main results

* `digitValue?_digit`: digits are read back.
-/

namespace MailMerge.Url.Punycode

/-- The digits are the small letters and then the ten digits. -/
def digit (n : Nat) : Char := if n < 26 then Char.ofNat (97 + n) else Char.ofNat (22 + n)

/-- The value of a digit. -/
def digitValue? (c : Char) : Option Nat :=
  if 'a' ≤ c ∧ c ≤ 'z' then some (c.toNat - 97)
  else if '0' ≤ c ∧ c ≤ '9' then some (c.toNat - 22)
  else none

theorem digitValue?_digit : ∀ n < 36, digitValue? (digit n) = some n := by decide

/-- The number of digits that need no successor at a position. -/
def threshold (position bias : Nat) : Nat :=
  if position ≤ bias then 1 else if bias + 26 ≤ position then 26 else position - bias

theorem threshold_pos (position bias : Nat) : 1 ≤ threshold position bias := by
  unfold threshold
  split
  · omega
  · split <;> omega

/-- Divides until the number is small and counts positions. -/
def scale (n position : Nat) : Nat × Nat :=
  if 455 < n then scale (n / 35) (position + 36) else (n, position)
termination_by n
decreasing_by omega

/-- The bias after a number has been written, where `count` characters are placed. -/
def adapt (number count : Nat) (first : Bool) : Nat :=
  let n := if first then number / 700 else number / 2
  let (n, position) := scale (n + n / count) 0
  position + 36 * n / (n + 38)

/-! ### Writing -/

/-- A number in digits of adapting weight. -/
def digits (bias position number : Nat) : List Char :=
  let t := threshold position bias
  if number < t then [digit number]
  else digit (t + (number - t) % (36 - t)) :: digits bias (position + 36) ((number - t) / (36 - t))
termination_by number
decreasing_by
  have := threshold_pos position bias
  have : (number - threshold position bias) / (36 - threshold position bias)
      ≤ number - threshold position bias := Nat.div_le_self _ _
  omega

/-- How far a label has been written. -/
structure State where
  written : List Char
  delta : Nat
  bias : Nat
  placed : Nat

/-- Looks at one character of the label while `n` is being placed. -/
def look (basic n : Nat) (s : State) (c : Char) : State :=
  if c.toNat < n then { s with delta := s.delta + 1 }
  else if c.toNat = n then
    { written := s.written ++ digits s.bias 36 s.delta
      delta := 0
      bias := adapt s.delta (s.placed + 1) (s.placed = basic)
      placed := s.placed + 1 }
  else s

/-- Places the remaining characters, smallest first. -/
def place (label : List Char) (basic : Nat) : List Nat → Nat → State → State
  | [], _, s => s
  | n :: later, next, s =>
    let s := { s with delta := s.delta + (n - next) * (s.placed + 1) }
    let s := label.foldl (look basic n) s
    place label basic later (n + 1) { s with delta := s.delta + 1 }

/-- The ASCII form of a label. -/
def encode (label : List Char) : List Char :=
  let basic := label.filter fun c => c.toNat < 128
  let others := ((label.filter fun c => 128 ≤ c.toNat).map Char.toNat).mergeSort.eraseDups
  let s := place label basic.length others 128 ⟨[], 0, 72, basic.length⟩
  basic ++ (if basic.isEmpty then [] else ['-']) ++ s.written

/-! ### Reading -/

/-- Numbers and weights are below this bound. -/
def wordBound : Nat := Nat.pow 2 32

/-- How far a label has been read: its characters so far, the last character placed, the number
that is being read with the weight and the position of its next digit, and what the number
was after the last character. -/
structure Reading where
  label : List Char
  placed : Nat
  number : Nat
  start : Nat
  weight : Nat
  position : Nat
  bias : Nat

/-- Places the character that a number stands for. -/
def Reading.insert (r : Reading) : Option Reading :=
  let count := r.label.length + 1
  let n := r.placed + r.number / count
  let i := r.number % count
  if n.isValidChar then
    some {
      label := r.label.take i ++ Char.ofNat n :: r.label.drop i
      placed := n
      number := i + 1
      start := i + 1
      weight := 1
      position := 36
      bias := adapt (r.number - r.start) count (r.start = 0) }
  else none

/-- Reads one digit. -/
def Reading.step (r : Reading) (c : Char) : Option Reading :=
  (digitValue? c).bind fun value =>
    let number := r.number + value * r.weight
    let t := threshold r.position r.bias
    if wordBound ≤ number then none
    else if value < t then { r with number := number }.insert
    else if wordBound ≤ r.weight * (36 - t) then none
    else some { r with
      number := number, weight := r.weight * (36 - t), position := r.position + 36 }

/-- The ASCII characters of a label and the digits behind the last hyphen between them. -/
def splitBasic (code : List Char) : List Char × List Char :=
  match code.reverse.dropWhile (· ≠ '-') with
  | _ :: b :: basic => ((b :: basic).reverse, code.drop (basic.length + 2))
  | _ => ([], code)

/-- The label that has an ASCII form. -/
def decode? (code : List Char) : Option (List Char) :=
  let (basic, rest) := splitBasic code
  match rest.foldlM Reading.step ⟨basic, 128, 0, 0, 1, 36, 72⟩ with
  | some r => if r.position = 36 then some r.label else none
  | none => none

end MailMerge.Url.Punycode
