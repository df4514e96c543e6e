import Mathlib.Data.List.TakeWhile
import Mathlib.Tactic.FieldSimp
import PdfResize.Number.Numeral
import PdfResize.Proofs.Number.Decimal
import PdfResize.Proofs.Number.Order

/-! The text of numbers: which characters it has, and that it reads back as the number. -/

namespace PdfResize

namespace Decimal

/-! ### The characters of a decimal -/

variable {chars whole fraction : List Char}

/-- A padded numeral has digits only. -/
theorem isDigit_of_mem_padded {width value : Nat} {char : Char} (inside : char ∈ padded width value) :
    char.isDigit = true := by
  -- A character of it is a zero that was put in front or a digit of the number.
  rcases List.mem_append.1 inside with zero | digit
  · rw [List.eq_of_mem_replicate zero]
    decide
  · exact Nat.isDigit_of_mem_toDigits (by decide) (by decide) digit

/-- A padded numeral is read as its number. -/
theorem ofDigitChars_padded (width value : Nat) :
    Nat.ofDigitChars 10 (padded width value) 0 = value := by
  -- Zeros in front count for nothing.
  simp [padded, Nat.ofDigitChars_append]

/-- The digits on both sides of a point are those of the number, one of them at least before it. -/
theorem exists_splitAtPoint (places value : Nat) : ∃ whole fraction,
    splitAtPoint places value = (whole, fraction) ∧ whole ≠ [] ∧ fraction.length = places ∧
      (∀ char ∈ whole ++ fraction, char.isDigit = true) ∧
      Nat.ofDigitChars 10 (whole ++ fraction) 0 = value := by
  -- There is a digit more than there are places, however small the value is.
  have long : places < (padded (places + 1) value).length := by
    rw [padded, List.length_append, List.length_replicate]
    omega
  refine ⟨_, _, by rw [splitAtPoint, List.splitAt_eq], ?_, ?_, ?_, ?_⟩
  · rw [← List.length_pos_iff, List.length_take]
    omega
  · rw [List.length_drop]
    omega
  · rw [List.take_append_drop]
    exact fun char inside => isDigit_of_mem_padded inside
  · rw [List.take_append_drop, ofDigitChars_padded]

/-- What is left of some digits without the zeros at their very end, and how many these are. -/
theorem exists_trailing_zeros (fraction : List Char) : ∃ zeros, fraction =
    (fraction.reverse.dropWhile (· == '0')).reverse ++ List.replicate zeros '0' := by
  -- Read from behind, the zeros are what comes first.
  refine ⟨(fraction.reverse.takeWhile (· == '0')).length, ?_⟩
  have zeros : fraction.reverse.takeWhile (· == '0') =
      List.replicate (fraction.reverse.takeWhile (· == '0')).length '0' := by
    refine List.eq_replicate_of_mem fun char inside => ?_
    simpa using List.mem_takeWhile_imp inside
  rw [← List.reverse_replicate, ← zeros, ← List.reverse_append, List.takeWhile_append_dropWhile,
    List.reverse_reverse]

/-- The value of digits on both sides of a point. -/
def positional (whole fraction : List Char) : Rat :=
  Nat.ofDigitChars 10 (whole ++ fraction) 0 * 10 ^ (-(fraction.length : Int))

/-- Zeros at the very end say nothing. -/
theorem positional_append_zeros (whole fraction : List Char) (zeros : Nat) :
    positional whole (fraction ++ List.replicate zeros '0') = positional whole fraction := by
  -- The digits are taken times the power of ten that the places are divided by.
  have digits : Nat.ofDigitChars 10 (whole ++ (fraction ++ List.replicate zeros '0')) 0 =
      10 ^ zeros * Nat.ofDigitChars 10 (whole ++ fraction) 0 := by
    rw [← List.append_assoc, Nat.ofDigitChars_append, Nat.ofDigitChars_replicate_zero]
  have scale : (10 : Rat) ^ (-((fraction ++ List.replicate zeros '0').length : Int)) =
      10 ^ (-(fraction.length : Int)) * (10 ^ zeros)⁻¹ := by
    rw [List.length_append, List.length_replicate, Nat.cast_add, neg_add, zpow_add₀ (by norm_num),
      zpow_neg _ (zeros : Int), zpow_natCast]
  rw [positional, positional, digits, scale]
  push_cast
  field_simp

/-- A text is positional for a value: digits, and a point with the other digits behind it if there are any. -/
structure Writes (chars : List Char) (value : Rat) (whole fraction : List Char) : Prop where
  nonempty : whole ≠ []
  wholeDigits : ∀ char ∈ whole, char.isDigit = true
  fractionDigits : ∀ char ∈ fraction, char.isDigit = true
  chars_eq : chars = whole ++ if fraction = [] then [] else '.' :: fraction
  value_eq : value = positional whole fraction

/-- A text of a number begins with a digit. -/
theorem Writes.exists_digit {value : Rat} (writes : Writes chars value whole fraction) :
    ∃ digit rest, chars = digit :: rest ∧ digit.isDigit = true := by
  -- The part before the point is not empty.
  obtain ⟨digit, rest, rfl⟩ := List.exists_cons_of_ne_nil writes.nonempty
  exact ⟨digit, _, writes.chars_eq, writes.wholeDigits digit List.mem_cons_self⟩

/-- Zeros behind the digits write a decimal without places. -/
theorem writes_of_nonneg {digits places : Nat} :
    Writes (Nat.toDigits 10 digits ++ List.replicate places '0') (toRat ⟨digits, places⟩)
      (Nat.toDigits 10 digits ++ List.replicate places '0') [] := by
  -- There is no point, and the zeros behind the digits are the power of ten.
  refine ⟨by simp, ?_, by simp, by simp, ?_⟩
  · intro char inside
    rcases List.mem_append.1 inside with digit | zero
    · exact Nat.isDigit_of_mem_toDigits (by decide) (by decide) digit
    · rw [List.eq_of_mem_replicate zero]
      decide
  · rw [toRat, zpow_natCast]
    simp [positional, Nat.ofDigitChars_append, mul_comm]

/-- Digits on both sides of a point, those behind it without the zeros at their end, write a decimal with places. -/
theorem writes_of_split {digits places : Nat} {all : List Char}
    (split : splitAtPoint places digits = (whole, all))
    (trimmed : fraction = (all.reverse.dropWhile (· == '0')).reverse) :
    Writes (whole ++ if fraction = [] then [] else '.' :: fraction) (toRat ⟨digits, -(places : Int)⟩)
      whole fraction := by
  obtain ⟨_, _, same, nonempty, length, isDigit, reads⟩ := exists_splitAtPoint places digits
  cases split.symm.trans same
  -- The zeros that are left out are put back to compare the values.
  obtain ⟨zeros, ends⟩ := exists_trailing_zeros all
  rw [← trimmed] at ends
  refine ⟨nonempty, fun char inside => isDigit char (by simp [inside]),
    fun char inside => isDigit char (by simp [ends, inside]), rfl, ?_⟩
  rw [← positional_append_zeros whole fraction zeros, ← ends, positional, reads, length, toRat]

/-- The text of a decimal writes its value. -/
theorem exists_writes (decimal : Decimal) :
    ∃ whole fraction, Writes decimal.text.toList decimal.toRat whole fraction := by
  -- The cases are those of writing: zero, a whole number, and one with a point.
  obtain ⟨digits, exponent⟩ := decimal
  simp only [text]
  split
  · rename_i nothing
    exact ⟨['0'], [], by simp, by simp, by simp, by rfl, by
      simp [toRat, nothing, positional, Nat.ofDigitChars_cons]⟩
  · split
    · -- The digits and the zeros are all before the point.
      rename_i nonneg
      obtain ⟨places, rfl⟩ := Int.eq_ofNat_of_zero_le nonneg
      refine ⟨Nat.toDigits 10 digits ++ List.replicate places '0', [], ?_⟩
      rw [String.toList_ofList]
      exact writes_of_nonneg
    · -- The point has the last digits behind it.
      rename_i negative
      obtain ⟨places, rfl⟩ : ∃ places : Nat, exponent = -(places : Int) :=
        ⟨(-exponent).toNat, by omega⟩
      obtain ⟨whole, all, split, _⟩ := exists_splitAtPoint places digits
      have writes := writes_of_split split rfl
      rw [neg_neg, Int.toNat_natCast, split]
      refine ⟨whole, (all.reverse.dropWhile (· == '0')).reverse, ?_⟩
      generalize (all.reverse.dropWhile (· == '0')).reverse = rest at writes ⊢
      cases rest <;> simpa using writes

end Decimal

namespace Binary

variable {format : Format} {value : Rat}

/-- A value past the range is rounded to infinity. -/
theorem round_of_large (wide : format.minExponent ≤ format.limit) (past : 2 ^ format.limit ≤ value) :
    (round value : Binary format) = infinite false := by
  -- A power of two is on the grid, and so rounding does not go below it.
  have grid : format.OnGrid (2 ^ format.limit) := by
    refine ⟨1, format.limit, ?_, wide, by simp⟩
    simp only [Int.natAbs_one, Format.significandLimit, Nat.pow_eq]
    exact Nat.one_le_two_pow
  have rounded := Format.le_nearest grid past
  have positive : 0 < value := lt_of_lt_of_le (by positivity) past
  rw [round, dif_neg fun inRange => absurd inRange.2 (not_lt.2 rounded)]
  simp [positive.le]

/-- A value that rounding leaves nothing of is rounded to zero. -/
theorem round_of_tiny (nonneg : 0 ≤ value) (tiny : value ≤ 2 ^ (format.minExponent - 1)) :
    (round value : Binary format) = zero false := by
  -- The nearest number is zero, which is in range and has the sign of the value.
  have nothing : format.nearest value = 0 := by
    rw [Format.nearest, if_neg (not_lt.2 nonneg)]
    exact (Format.nearestSize_eq_zero_iff nonneg).2 tiny
  have inRange : format.InRange (format.nearest value) := by
    rw [nothing]
    exact format.holds_zero.1
  rw [round, dif_pos inRange, if_pos nothing, decide_eq_false (not_lt.2 nonneg)]

/-- A size whose nearest number has a value is rounded to the number without a sign. -/
theorem round_of_nearest {size : Rat} (nonneg : 0 ≤ size) (back : format.nearest size = value)
    (held : format.Holds value) : (round size : Binary format) = finite value held := by
  subst back
  rw [round, dif_pos held.1]
  -- A zero would get the sign of the size, which has none.
  split
  · rename_i nothing
    rw [decide_eq_false (not_lt.2 nonneg)]
    simp only [zero, nothing, Bool.false_eq_true, if_false]
  · rfl

end Binary

/-- A digit has no other case. -/
theorem toLower_digit {digit : Char} (isDigit : digit.isDigit = true) : digit.toLower = digit := by
  -- Digits come before the capital letters.
  simp only [Char.isDigit, Bool.and_eq_true, decide_eq_true_eq] at isDigit
  refine dif_neg ?_
  rintro ⟨upper, _⟩
  exact absurd (UInt32.le_trans upper isDigit.2) (by decide)

namespace Numeral

/-! ### Reading it -/

variable {format : Format} {chars whole fraction rest : List Char} {value : Rat}

/-- A text that begins with a digit has no sign. -/
theorem splitSign_digit {digit : Char} (isDigit : digit.isDigit = true) :
    splitSign (digit :: rest) = (false, digit :: rest) := by
  -- Neither sign is a digit.
  unfold splitSign
  split
  · rename_i same
    cases same
    cases isDigit
  · rename_i same
    cases same
    cases isDigit
  · rfl

/-- Digits that are read one by one give the number that they stand for. -/
theorem natOfDigits_map (chars : List Char) :
    natOfDigits (chars.map fun digit => digit.toNat - '0'.toNat) = Nat.ofDigitChars 10 chars 0 := by
  -- Both are the same fold over the characters.
  rw [natOfDigits, List.foldl_map]
  rfl

/-- The leading digits are those up to the first other character. -/
theorem splitDigits_append (digits : ∀ char ∈ whole, char.isDigit = true)
    (ends : ∀ char ∈ rest.head?, char.isDigit = false) :
    splitDigits (whole ++ rest) = (whole.map fun digit => digit.toNat - '0'.toNat, rest) := by
  -- Behind them there is no digit left to take.
  have none : rest.takeWhile Char.isDigit = [] ∧ rest.dropWhile Char.isDigit = rest := by
    cases rest with
    | nil => exact ⟨rfl, rfl⟩
    | cons char rest => simp [ends char (by simp)]
  rw [splitDigits, List.span_eq_takeWhile_dropWhile, List.takeWhile_append_of_pos digits,
    List.dropWhile_append_of_pos digits, none.1, none.2, List.append_nil]

/-- Positional text is read as its value. -/
theorem exists_ofUnsigned? (writes : Decimal.Writes chars value whole fraction) (negative : Bool) :
    ∃ size : Decimal, ofUnsigned? negative chars = some ⟨negative, size⟩ ∧ size.toRat = value := by
  refine ⟨⟨Nat.ofDigitChars 10 (whole ++ fraction) 0, -(fraction.length : Int)⟩, ?_, writes.value_eq.symm⟩
  -- The digits are read up to the point, and then those behind it up to the end.
  have first : splitDigits chars = (whole.map fun digit => digit.toNat - '0'.toNat,
      if fraction = [] then [] else '.' :: fraction) := by
    rw [writes.chars_eq]
    refine splitDigits_append writes.wholeDigits ?_
    split <;> simp
  have second : splitFraction (if fraction = [] then [] else '.' :: fraction) =
      (fraction.map fun digit => digit.toNat - '0'.toNat, []) := by
    split
    · rename_i none
      subst none
      rfl
    · have all : splitDigits (fraction ++ []) = _ := splitDigits_append writes.fractionDigits (by simp)
      rwa [List.append_nil] at all
  have nonempty : (whole.map fun digit => digit.toNat - '0'.toNat).isEmpty = false := by
    simp [writes.nonempty]
  simp only [ofUnsigned?, first, second, nonempty, Bool.false_and, Bool.false_eq_true, if_false,
    exponent?, Option.map_some, ofDigits, ← List.map_append, natOfDigits_map, List.length_map, zero_sub]

/-! ### Rounding what is read -/

/-- A decimal lies between the powers of ten that its digits and its exponent say. -/
theorem size_bounds {size : Decimal} (something : size.digits ≠ 0) :
    (10 : Rat) ^ ((Nat.toDigits 10 size.digits).length + size.exponent - 1) ≤ size.toRat ∧
      size.toRat < 10 ^ ((Nat.toDigits 10 size.digits).length + size.exponent) := by
  -- The digits are between two powers of ten, and the exponent shifts all three alike.
  have ten : (10 : Rat) ≠ 0 := by norm_num
  have unit : (0 : Rat) < 10 ^ size.exponent := by positivity
  have low : (10 : Rat) ^ ((Nat.toDigits 10 size.digits).length - 1) ≤ size.digits := by
    exact_mod_cast Decimal.ten_pow_length_le (Nat.pos_of_ne_zero something)
  have high : (size.digits : Rat) < 10 ^ (Nat.toDigits 10 size.digits).length := by
    exact_mod_cast Decimal.lt_ten_pow_length size.digits
  have digits : 0 < (Nat.toDigits 10 size.digits).length := Nat.length_toDigits_pos
  constructor
  · have split : ((Nat.toDigits 10 size.digits).length : Int) + size.exponent - 1 =
        ((Nat.toDigits 10 size.digits).length - 1 : Nat) + size.exponent := by omega
    rw [split, zpow_add₀ ten, zpow_natCast, Decimal.toRat]
    gcongr
  · rw [zpow_add₀ ten, zpow_natCast, Decimal.toRat]
    gcongr

/-- The shortcuts past the largest and the smallest powers of ten answer what rounding answers. -/
theorem toBinary_eq_round (wide : 0 ≤ format.limit) (fine : format.minExponent ≤ 0) (size : Decimal) :
    (toBinary ⟨false, size⟩ : Binary format) = .round size.toRat := by
  -- The two shortcuts, for sizes far too large and far too small, answer what rounding would have.
  unfold toBinary
  simp only [Bool.false_eq_true, if_false]
  split
  · rename_i nothing
    have zero : size.toRat = 0 := by rw [Decimal.toRat, nothing, Nat.cast_zero, zero_mul]
    rw [zero, Binary.round_of_holds format.holds_zero]
    rfl
  · rename_i something
    obtain ⟨low, high⟩ := size_bounds something
    have nonneg : 0 ≤ size.toRat := le_trans (by positivity) low
    split
    · -- Ten exceeds two, so the size is past the range of the format.
      rename_i large
      have past : (2 : Rat) ^ format.limit ≤ size.toRat := by
        calc (2 : Rat) ^ format.limit ≤ 10 ^ format.limit := zpow_le_zpow_left₀ wide (by norm_num) (by norm_num)
          _ ≤ 10 ^ ((Nat.toDigits 10 size.digits).length + size.exponent - 1) :=
            zpow_le_zpow_right₀ (by norm_num) (by omega)
          _ ≤ size.toRat := low
      exact (Binary.round_of_large (fine.trans wide) past).symm
    · split
      · -- For the same reason it is less than half of the finest unit.
        rename_i small
        have tiny : size.toRat ≤ 2 ^ (format.minExponent - 1) := by
          obtain ⟨places, negative⟩ := Int.eq_ofNat_of_zero_le
            (by omega : 0 ≤ -((Nat.toDigits 10 size.digits).length + size.exponent))
          have exponent : (Nat.toDigits 10 size.digits).length + size.exponent = -(places : Int) := by
            omega
          rw [exponent] at high small
          calc size.toRat ≤ 10 ^ (-(places : Int)) := high.le
            _ ≤ 2 ^ (-(places : Int)) := by
              rw [zpow_neg, zpow_neg, zpow_natCast, zpow_natCast]
              exact inv_anti₀ (by positivity) (pow_le_pow_left₀ (by norm_num) (by norm_num) places)
            _ ≤ 2 ^ (format.minExponent - 1) := two_zpow_le (by omega)
        exact (Binary.round_of_tiny nonneg tiny).symm
      · rfl

end Numeral

namespace Single

/-! ### The text of coordinates and factors -/

variable {number : Single} {value size : Rat} {whole fraction : List Char}

/-- Zero is written as one digit. -/
theorem text_zero : (0 : Single).text = "0" := by
  -- The text is evaluated.
  decide +kernel

/-- The shortest decimal for one stands for one. -/
theorem shortest_one : (Decimal.shortest .single 1).toRat = 1 := by
  -- The search is evaluated.
  decide +kernel

/-- One is a number of the smaller format. -/
theorem one_onGrid : Format.single.OnGrid 1 :=
  -- It is one times the power zero of two.
  ⟨1, 0, by decide, by decide, by norm_num⟩

/-- The text of a number with a positive value is that of the decimal found for the value. -/
theorem text_of_pos (held : Format.single.Holds value) (positive : 0 < value) :
    (Binary.finite value held : Single).text = (Decimal.shortest .single value).text := by
  -- A positive number is written without a sign.
  show (if value < 0 then _ else _) = _
  rw [if_neg (not_lt.2 positive.le)]

/-- A number that is not negative is written as a decimal that is rounded to it.

The decimal is nothing only for zero, and up to one for a number up to one.
-/
theorem exists_writes (exact : number.toRat? = some value) (sign : number.isNegative = false) :
    ∃ size whole fraction, Decimal.Writes number.text.toList size whole fraction ∧ 0 ≤ size ∧
      Format.single.nearest size = value ∧ (0 < size ↔ 0 < value) ∧ (value ≤ 1 → size ≤ 1) := by
  -- Zero is written as it is; any other value by its shortest decimal, which rounds back to it.
  rcases Binary.exact_cases exact with ⟨rfl, _⟩ | ⟨held, rfl⟩
  · cases sign
  · have nonneg : 0 ≤ value := not_lt.1 (of_decide_eq_false sign)
    rcases nonneg.eq_or_lt with rfl | positive
    · have zero : (Binary.finite 0 held : Single) = 0 := Binary.zero_eq.symm
      refine ⟨0, ['0'], [], ?_, le_rfl, Format.nearest_of_onGrid held.2, Iff.rfl, fun _ => by norm_num⟩
      rw [zero, text_zero]
      exact ⟨by simp, by simp, by simp, by rfl, by simp [Decimal.positional, Nat.ofDigitChars_cons]⟩
    · obtain ⟨whole, fraction, writes⟩ := (Decimal.shortest .single value).exists_writes
      rw [← text_of_pos held positive] at writes
      have back := Decimal.nearest_shortest (by decide) positive held.2
      have written : 0 ≤ (Decimal.shortest .single value).toRat := by
        rw [Decimal.toRat]
        positivity
      refine ⟨_, whole, fraction, writes, written, back, iff_of_true ?_ positive, fun atMost => ?_⟩
      · -- Nothing is rounded to nothing.
        refine lt_of_le_of_ne written fun nothing => ?_
        rw [← nothing, Format.nearest_of_onGrid Format.single.holds_zero.2] at back
        exact positive.ne back
      · rcases atMost.lt_or_eq with less | rfl
        · by_contra above
          have rounded := Format.le_nearest one_onGrid (not_le.1 above).le
          rw [back] at rounded
          exact absurd rounded (not_le.2 less)
        · exact shortest_one.le

/-- The text of a number that is not negative reads back as the number. -/
theorem ofText?_text (exact : number.toRat? = some value) (sign : number.isNegative = false) :
    Binary.ofText? number.text = some number := by
  obtain ⟨size, whole, fraction, writes, nonneg, back, _⟩ := exists_writes exact sign
  obtain ⟨decimal, read, rfl⟩ := Numeral.exists_ofUnsigned? writes false
  obtain ⟨digit, rest, chars, isDigit⟩ := writes.exists_digit
  have unsigned : Numeral.splitSign number.text.toList = (false, number.text.toList) := by
    rw [chars, Numeral.splitSign_digit isDigit]
  -- The words for infinity and for no number do not begin with a digit.
  have noWord : ∀ word : String, (∀ char ∈ word.toList.head?, char.isDigit = false) →
      String.ofList (number.text.toList.map Char.toLower) ≠ word := by
    rintro _ other rfl
    simp [chars, toLower_digit isDigit, isDigit] at other
  have rounded : (Binary.round decimal.toRat : Single) = number := by
    rcases Binary.exact_cases exact with ⟨rfl, _⟩ | ⟨held, rfl⟩
    · cases sign
    · exact Binary.round_of_nearest nonneg back held
  rw [Binary.ofText?, unsigned]
  simp only
  rw [if_neg (not_or.2 ⟨noWord _ (by simp), noWord _ (by simp)⟩), if_neg (noWord _ (by simp)), read,
    Option.map_some, Numeral.toBinary_eq_round (by decide) (by decide), rounded]

end Single

end PdfResize
