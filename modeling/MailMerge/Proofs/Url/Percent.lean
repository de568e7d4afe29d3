import Mathlib
import MailMerge.Url.Percent

/-!
# Percent encoding is undone by decoding

An encoded text is made of ASCII characters. If the percent sign itself is encoded, then every
percent sign in the encoded text stands for a byte, and decoding gives back the bytes of the text.
These determine the text, so different texts stay different when they are encoded.

## Main definitions

* `Reversible`: sets of encoded bytes with the percent sign and everything beyond ASCII.

## Main results

* `Reversible.percentDecode_percentEncode`: decoding gives back the bytes of a text.
* `Reversible.percentEncode_injective`: different texts are encoded differently.
* `Reversible.not_mem_percentEncode`: encoded characters do not occur in the encoded text.
-/

namespace MailMerge.Url

variable {encoded : UInt8 → Bool}

/-! ## The bytes of a text -/

theorem utf8_cons (c : Char) (cs : List Char) :
    utf8 (c :: cs) = String.utf8EncodeChar c ++ utf8 cs := List.flatMap_cons

@[simp] theorem utf8_append (cs ds : List Char) : utf8 (cs ++ ds) = utf8 cs ++ utf8 ds :=
  List.flatMap_append

/-- An ASCII character is a single byte. -/
theorem utf8EncodeChar_of_ascii {c : Char} (ascii : c.toNat < 128) :
    String.utf8EncodeChar c = [byte c] := by
  have small : c.val ≤ 127 := UInt32.le_iff_toNat_le.mpr (Nat.le_of_lt_succ ascii)
  rw [String.utf8EncodeChar_eq_singleton (Char.utf8Size_eq_one_iff.mpr small)]
  rfl

/-- A text of ASCII characters has one byte for each of them. -/
theorem utf8_of_ascii {cs : List Char} (ascii : ∀ c ∈ cs, c.toNat < 128) :
    utf8 cs = cs.map byte := by
  induction cs with
  | nil => rfl
  | cons c cs ih =>
    obtain ⟨head, tail⟩ := List.forall_mem_cons.mp ascii
    rw [utf8_cons, utf8EncodeChar_of_ascii head, ih tail]
    rfl

/-- The bytes of a text determine it. -/
theorem utf8_injective : Function.Injective utf8 := by
  intro cs ds eq
  refine String.ofList_injective (String.toByteArray_inj.mp ?_)
  rw [String.toByteArray_ofList, String.toByteArray_ofList]
  exact congrArg List.toByteArray eq

/-! ## One byte -/

/-- Sets of bytes that leave only ASCII characters as they are, and not the percent sign. -/
structure Reversible (encoded : UInt8 → Bool) : Prop where
  ascii : ∀ b, encoded b = false → b.toNat < 128
  percent : encoded 37 = true

/-- Everything beyond ASCII counts as a control. -/
theorem ascii_of_isControl_eq_false {b : UInt8} (h : isControl b = false) : b.toNat < 128 := by
  rw [isControl, Bool.or_eq_false_iff, decide_eq_false_iff_not, decide_eq_false_iff_not] at h
  have small : b.toNat ≤ 126 := UInt8.le_iff_toNat_le.mp (UInt8.not_lt.mp h.2)
  omega

theorem hexValue?_byte_hexCapital :
    ∀ n < 16, hexValue? (byte (Text.hexCapital n)) = some n := by decide

theorem hexCapital_ascii : ∀ n < 16, (Text.hexCapital n).toNat < 128 := by decide

theorem toNat_ofNat_of_ascii {n : Nat} (ascii : n < 128) : (Char.ofNat n).toNat = n := by
  have valid : n.isValidChar := .inl (by omega)
  rw [Char.toNat_ofNat, if_pos valid]

theorem Reversible.byte_ofNat (h : Reversible encoded) {b : UInt8} (plain : encoded b = false) :
    byte (Char.ofNat b.toNat) = b := by
  rw [byte, toNat_ofNat_of_ascii (h.ascii b plain), UInt8.ofNat_toNat]

theorem highDigit_lt (b : UInt8) : b.toNat / 16 < 16 := by
  have := b.toNat_lt
  omega

theorem lowDigit_lt (b : UInt8) : b.toNat % 16 < 16 := Nat.mod_lt _ (by decide)

/-- The characters that a byte is written as. -/
theorem of_mem_encodeByte {b : UInt8} {c : Char} (mem : c ∈ encodeByte encoded b) :
    c = '%' ∨ (∃ n < 16, c = Text.hexCapital n) ∨
      encoded b = false ∧ c = Char.ofNat b.toNat := by
  rw [encodeByte] at mem
  cases must : encoded b with
  | true =>
    rw [must, if_pos rfl] at mem
    rcases List.mem_cons.mp mem with sign | digit
    · exact .inl sign
    · rcases List.mem_pair.mp digit with high | low
      · exact .inr (.inl ⟨_, highDigit_lt b, high⟩)
      · exact .inr (.inl ⟨_, lowDigit_lt b, low⟩)
  | false =>
    rw [must, if_neg Bool.false_ne_true, List.mem_singleton] at mem
    exact .inr (.inr ⟨rfl, mem⟩)

/-- A byte is written as ASCII characters. -/
theorem Reversible.ascii_of_mem_encodeByte (h : Reversible encoded) {b : UInt8} {c : Char}
    (mem : c ∈ encodeByte encoded b) : c.toNat < 128 := by
  rcases of_mem_encodeByte mem with rfl | ⟨n, small, rfl⟩ | ⟨plain, rfl⟩
  · decide
  · exact hexCapital_ascii n small
  · rw [toNat_ofNat_of_ascii (h.ascii b plain)]
    exact h.ascii b plain

/-- A byte that is not a percent sign stands for itself. -/
theorem percentDecode_cons {b : UInt8} (ne : b ≠ 37) (rest : List UInt8) :
    percentDecode (b :: rest) = b :: percentDecode rest := by
  rw [percentDecode]
  rintro _ _ _ rfl
  exact absurd rfl ne

/-- What a byte is written as is decoded, whatever follows it. -/
theorem Reversible.percentDecode_encodeByte (h : Reversible encoded) (b : UInt8)
    (rest : List UInt8) :
    percentDecode (utf8 (encodeByte encoded b) ++ rest) = b :: percentDecode rest := by
  rw [utf8_of_ascii fun c mem => h.ascii_of_mem_encodeByte mem, encodeByte]
  cases must : encoded b with
  | true =>
    -- three characters are three bytes: the percent sign, and two digits that make up the byte
    have digits : 16 * (b.toNat / 16) + b.toNat % 16 = b.toNat := Nat.div_add_mod _ _
    rw [if_pos rfl]
    change percentDecode (37 :: _ :: _ :: rest) = _
    rw [percentDecode, hexValue?_byte_hexCapital _ (highDigit_lt b),
      hexValue?_byte_hexCapital _ (lowDigit_lt b)]
    change UInt8.ofNat (16 * (b.toNat / 16) + b.toNat % 16) :: _ = _
    rw [digits, UInt8.ofNat_toNat]
  | false =>
    -- the byte stands for itself, as it is no percent sign
    have ne : b ≠ 37 := by
      rintro rfl
      cases must.symm.trans h.percent
    rw [if_neg Bool.false_ne_true, List.map_singleton, h.byte_ofNat must]
    exact percentDecode_cons ne rest

/-! ## Texts -/

/-- What bytes are written as is decoded to these bytes. -/
theorem Reversible.percentDecode_flatMap (h : Reversible encoded) (bs : List UInt8) :
    percentDecode (utf8 (bs.flatMap (encodeByte encoded))) = bs := by
  induction bs with
  | nil => rfl
  | cons b bs ih => rw [List.flatMap_cons, utf8_append, h.percentDecode_encodeByte, ih]

/-- Decoding gives back the bytes of a text. -/
theorem Reversible.percentDecode_percentEncode (h : Reversible encoded) (cs : List Char) :
    percentDecode (utf8 (percentEncode encoded cs)) = utf8 cs :=
  h.percentDecode_flatMap (utf8 cs)

/-- Different texts are encoded differently. -/
theorem Reversible.percentEncode_injective (h : Reversible encoded) :
    Function.Injective (percentEncode encoded) := by
  intro cs ds eq
  refine utf8_injective ?_
  rw [← h.percentDecode_percentEncode, eq, h.percentDecode_percentEncode]

/-- A character that is encoded does not occur in the encoded text, unless it is one of those that
encoded bytes are written as. -/
theorem Reversible.not_mem_percentEncode (h : Reversible encoded) {c : Char}
    (must : encoded (byte c) = true) (sign : c ≠ '%') (digit : ∀ n < 16, c ≠ Text.hexCapital n)
    (cs : List Char) : c ∉ percentEncode encoded cs := by
  intro mem
  obtain ⟨b, -, mem⟩ := List.mem_flatMap.mp mem
  rcases of_mem_encodeByte mem with eq | ⟨n, small, eq⟩ | ⟨plain, rfl⟩
  · exact sign eq
  · exact digit n small eq
  · rw [h.byte_ofNat plain, plain] at must
    cases must

end MailMerge.Url
