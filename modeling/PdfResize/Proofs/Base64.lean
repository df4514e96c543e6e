import PdfResize.Base64

/-! Base64 text can be read back, so that different bytes have different texts. -/

namespace PdfResize.Base64

/-- The value below 64 that a character stands for, zero for an equals sign. -/
def valueOf (char : Char) : Nat := alphabet.idxOf char % 64

/-- The bytes of a text, in groups of four characters; equals signs stand for bytes that are not there. -/
def decodeChars : List Char → Bytes
  | first :: second :: third :: fourth :: rest =>
    let bits := ((valueOf first * 64 + valueOf second) * 64 + valueOf third) * 64 + valueOf fourth
    let group : Bytes := [.ofNat (bits / 65536), .ofNat (bits / 256 % 256), .ofNat (bits % 256)]
    if third = '=' then group.take 1
    else if fourth = '=' then group.take 2
    else group ++ decodeChars rest
  | _ => []

/-- All characters of the alphabet are different, and none of them is an equals sign. -/
theorem alphabet_laws :
    (∀ value : Fin 64, valueOf (digit value) = value ∧ digit value ≠ '=') ∧ valueOf '=' = 0 := by
  -- There are only 64 digits, so each is tried.
  decide +kernel

/-- The character for a value stands for the value. -/
theorem valueOf_digit {value : Nat} (small : value < 64) : valueOf (digit value) = value :=
  -- A value below 64 is one of the digits that were tried.
  (alphabet_laws.1 ⟨value, small⟩).1

/-- No digit of the alphabet is the padding sign. -/
theorem digit_ne_equals {value : Nat} (small : value < 64) : digit value ≠ '=' :=
  -- The padding sign stands outside the 64 digits that were tried.
  (alphabet_laws.1 ⟨value, small⟩).2

/-- The padding sign counts as zero. -/
theorem valueOf_equals : valueOf '=' = 0 := alphabet_laws.2

/-- A byte is found again as the part of a number that it makes up. -/
theorem ofNat_eq_of_toNat (byte : UInt8) {number : Nat} (same : number = byte.toNat) :
    UInt8.ofNat number = byte := by
  -- A byte is determined by its number.
  rw [same, UInt8.ofNat_toNat]

/-- The characters of bytes give the bytes back. -/
theorem decodeChars_encodeChars (bytes : Bytes) : decodeChars (encodeChars bytes) = bytes := by
  -- The bits of a group are shared out in sixes and put together again.
  induction bytes using encodeChars.induct with
  | case1 => rfl
  | case2 first =>
    have bound : first.toNat < 256 := first.toNat_lt_size
    simp only [encodeChars, decodeChars, if_true, List.take_succ_cons, List.take_zero]
    rw [valueOf_digit (by omega), valueOf_digit (by omega), valueOf_equals]
    exact congrArg ([·]) (ofNat_eq_of_toNat first (by omega))
  | case3 first second =>
    have bound : first.toNat < 256 := first.toNat_lt_size
    have secondBound : second.toNat < 256 := second.toNat_lt_size
    simp only [encodeChars, decodeChars, if_true, List.take_succ_cons, List.take_zero]
    rw [if_neg (digit_ne_equals (by omega)), valueOf_digit (by omega), valueOf_digit (by omega),
      valueOf_digit (by omega), valueOf_equals, ofNat_eq_of_toNat first (by omega),
      ofNat_eq_of_toNat second (by omega)]
  | case4 first second third rest ih =>
    have bound : first.toNat < 256 := first.toNat_lt_size
    have secondBound : second.toNat < 256 := second.toNat_lt_size
    have thirdBound : third.toNat < 256 := third.toNat_lt_size
    simp only [encodeChars, decodeChars]
    rw [if_neg (digit_ne_equals (by omega)), if_neg (digit_ne_equals (by omega)), ih,
      valueOf_digit (by omega), valueOf_digit (by omega), valueOf_digit (by omega),
      valueOf_digit (by omega), ofNat_eq_of_toNat first (by omega),
      ofNat_eq_of_toNat second (by omega), ofNat_eq_of_toNat third (by omega)]
    rfl

/-- Bytes with one text are the same bytes. -/
theorem encode_inj {left right : Bytes} : encode left = encode right ↔ left = right := by
  -- What is decoded from the text is the bytes again, so one text comes from one run of bytes.
  constructor
  · intro same
    have read := congrArg decodeChars (String.ofList_inj.1 same)
    rwa [decodeChars_encodeChars, decodeChars_encodeChars] at read
  · rintro rfl
    rfl

end PdfResize.Base64
