import PdfResize.Proofs.Number.Rounding

/-! The order of numbers, and bounds on the answers of operations. -/

namespace PdfResize.Binary

variable {format : Format}

/-- Only zeros and exact values stand for a value. -/
theorem exact_cases {number : Binary format} {value : Rat} (exact : number.toRat? = some value) :
    number = negativeZero ∧ value = 0 ∨ ∃ held, number = finite value held := by
  -- Of the four kinds of numbers, two stand for a value.
  cases number with
  | nan => cases exact
  | infinite negative => cases exact
  | negativeZero =>
    cases exact
    exact .inl ⟨rfl, rfl⟩
  | finite same held =>
    cases exact
    exact .inr ⟨held, rfl⟩

/-- A number stands only for a value that its format holds. -/
theorem holds_of_toRat? {number : Binary format} {value : Rat}
    (exact : number.toRat? = some value) : format.Holds value := by
  -- A negative zero stands for zero, which every format holds.
  rcases exact_cases exact with ⟨_, rfl⟩ | ⟨held, _⟩
  · exact format.holds_zero
  · exact held

/-- A value that the format holds is rounded to itself. -/
theorem round_of_holds {value : Rat} (held : format.Holds value) :
    (round value : Binary format) = finite value held := by
  -- It is its own nearest number, and a zero without a sign.
  have nearest := Format.nearest_of_onGrid held.2
  by_cases nothing : value = 0
  · subst nothing
    simp [round, nearest, held.1, zero]
  · simp [round, nearest, held.1, nothing]

/-- The numeral zero is the positive zero. -/
theorem zero_eq : (0 : Binary format) = finite 0 format.holds_zero := by
  -- Zero is a number of every format.
  have literal : (0 : Binary format) = round ((0 : Nat) : Rat) := rfl
  rw [literal, Nat.cast_zero]
  exact round_of_holds format.holds_zero

/-- The numeral zero stands for zero. -/
@[simp] theorem toRat?_zero : (0 : Binary format).toRat? = some 0 := by
  -- The numeral is the finite number zero.
  rw [zero_eq]
  rfl

/-- A zero of either sign stands for zero. -/
@[simp] theorem toRat?_signedZero (negative : Bool) :
    (zero negative : Binary format).toRat? = some 0 := by
  -- There are two zeros, and both stand for the same value.
  cases negative <;> rfl

/-- Numbers that stand for values are ordered as the values are. -/
theorem le_iff {left right : Binary format} {low high : Rat} (leftExact : left.toRat? = some low)
    (rightExact : right.toRat? = some high) : left ≤ right ↔ low ≤ high := by
  -- The comparison reads the two values.
  show left.atMost right = true ↔ _
  cases left <;> cases right <;> simp_all [atMost, toRat?]

/-- Numbers that stand for values are strictly ordered as the values are. -/
theorem lt_iff {left right : Binary format} {low high : Rat} (leftExact : left.toRat? = some low)
    (rightExact : right.toRat? = some high) : left < right ↔ low < high := by
  -- The comparison reads the two values.
  show left.less right = true ↔ _
  cases left <;> cases right <;> simp_all [less, toRat?]

/-- A number up to another one is not beyond it. -/
theorem not_lt_of_le {left right : Binary format} (ordered : left ≤ right) : ¬ right < left := by
  -- Both comparisons read the same two points of the line.
  have below : left.atMost right = true := ordered
  show ¬ right.less left = true
  cases left <;> cases right <;> simp_all [atMost, less]
  rcases below with rfl | rfl <;> simp

/-- What comes before another number is up to it. -/
theorem le_of_lt {left right : Binary format} (less : left < right) : left ≤ right := by
  -- Both comparisons read the same two points of the line.
  have below : left.less right = true := less
  show left.atMost right = true
  cases left <;> cases right <;> simp_all [atMost, Binary.less]
  all_goals exact below.le

/-- Two numbers with one value are the same, unless they are zeros. -/
theorem eq_of_toRat? {left right : Binary format} {value : Rat} (leftExact : left.toRat? = some value)
    (rightExact : right.toRat? = some value) (proper : value ≠ 0) : left = right := by
  -- Only zero is written in two ways.
  rcases exact_cases leftExact with ⟨_, nothing⟩ | ⟨_, rfl⟩
  · exact absurd nothing proper
  · rcases exact_cases rightExact with ⟨_, nothing⟩ | ⟨_, rfl⟩
    · exact absurd nothing proper
    · rfl

/-- A number that is not zero does not stand for zero. -/
theorem pos_of_isZero {number : Binary format} {value : Rat} (exact : number.toRat? = some value)
    (nonzero : number.isZero = false) (nonneg : 0 ≤ value) : 0 < value := by
  -- A number that stands for zero is a zero.
  refine lt_of_le_of_ne nonneg ?_
  rintro rfl
  simp [isZero, exact] at nonzero

/-- A number between two that stand for values stands for a value. -/
theorem exists_toRat?_of_between {low number high : Binary format} {first last : Rat}
    (lowExact : low.toRat? = some first) (highExact : high.toRat? = some last)
    (above : low ≤ number) (below : number ≤ high) : ∃ value, number.toRat? = some value := by
  -- An infinity is beyond one of the two, and what is no number is not compared.
  rcases exact_cases lowExact with ⟨rfl, _⟩ | ⟨_, rfl⟩ <;>
    rcases exact_cases highExact with ⟨rfl, _⟩ | ⟨_, rfl⟩ <;>
    cases number with
    | nan => cases above
    | infinite negative =>
      cases negative with
      | false => cases below
      | true => cases above
    | negativeZero => exact ⟨0, rfl⟩
    | finite value held => exact ⟨value, rfl⟩

/-- A value that is not in range leaves the range on the side of its sign. -/
theorem nearest_out_of_range {value : Rat} (out : ¬ format.InRange (format.nearest value)) :
    value < 0 ∧ format.nearest value ≤ -2 ^ format.limit ∨
      0 ≤ value ∧ 2 ^ format.limit ≤ format.nearest value := by
  -- Rounding does not cross zero.
  have positive : (0 : Rat) < 2 ^ format.limit := by positivity
  rcases lt_or_ge value 0 with negative | nonneg
  · have below := Format.nearest_le format.holds_zero.2 negative.le
    left
    refine ⟨negative, ?_⟩
    by_contra above
    exact out ⟨not_le.1 above, by linarith⟩
  · have above := Format.le_nearest format.holds_zero.2 nonneg
    right
    refine ⟨nonneg, ?_⟩
    by_contra below
    exact out ⟨by linarith, not_le.1 below⟩

/-- A value up to that of a number is rounded to a number up to it. -/
theorem round_le {value limit : Rat} {bound : Binary format} (exact : bound.toRat? = some limit)
    (below : value ≤ limit) : round value ≤ bound := by
  -- The bound is on the grid, and a value that leaves the range under it does so to the negative side.
  have held := holds_of_toRat? exact
  have nearest := Format.nearest_le held.2 below
  unfold round
  split
  · split
    · rename_i nothing
      rw [nothing] at nearest
      exact (le_iff (toRat?_signedZero _) exact).2 nearest
    · exact (le_iff rfl exact).2 nearest
  · rename_i out
    rcases nearest_out_of_range out with ⟨negative, _⟩ | ⟨_, past⟩
    · show atMost _ _ = true
      cases bound <;> simp_all [atMost, toRat?]
    · exact absurd held.1.2 (not_lt.2 (le_trans past nearest))

/-- A value from that of a number on is rounded to a number from there on. -/
theorem le_round {value limit : Rat} {bound : Binary format} (exact : bound.toRat? = some limit)
    (above : limit ≤ value) : bound ≤ round value := by
  -- The bound is on the grid, and a value that leaves the range over it does so to the positive side.
  have held := holds_of_toRat? exact
  have nearest := Format.le_nearest held.2 above
  unfold round
  split
  · split
    · rename_i nothing
      rw [nothing] at nearest
      exact (le_iff exact (toRat?_signedZero _)).2 nearest
    · exact (le_iff exact rfl).2 nearest
  · rename_i out
    rcases nearest_out_of_range out with ⟨_, past⟩ | ⟨nonneg, _⟩
    · exact absurd held.1.1 (not_lt.2 (le_trans nearest past))
    · show atMost _ _ = true
      cases bound <;> simp_all [atMost, toRat?]

/-- A number is what an operation with this exact result answers, up to the sign of a zero. -/
def Rounds (number : Binary format) (value : Rat) : Prop :=
  number = round value ∨ value = 0 ∧ number.toRat? = some 0

namespace Rounds

variable {number bound : Binary format} {value limit : Rat}

/-- An answer stays up to a number that the exact result is up to. -/
theorem le (rounds : number.Rounds value) (exact : bound.toRat? = some limit)
    (below : value ≤ limit) : number ≤ bound := by
  -- A zero of either sign is compared as its value is.
  rcases rounds with rfl | ⟨rfl, nothing⟩
  · exact round_le exact below
  · exact (le_iff nothing exact).2 below

/-- An answer stays from a number on that the exact result is from on. -/
theorem ge (rounds : number.Rounds value) (exact : bound.toRat? = some limit)
    (above : limit ≤ value) : bound ≤ number := by
  -- A zero of either sign is compared as its value is.
  rcases rounds with rfl | ⟨rfl, nothing⟩
  · exact le_round exact above
  · exact (le_iff exact nothing).2 above

/-- An exact result between two values of the format has its answer between them as well. -/
theorem between {low high : Rat} (rounds : number.Rounds value) (lowHeld : format.Holds low)
    (highHeld : format.Holds high) (above : low ≤ value) (below : value ≤ high) :
    ∃ result, number.toRat? = some result ∧ low ≤ result ∧ result ≤ high := by
  -- Both bounds are numbers, which the answer lies between.
  have notAbove : number ≤ finite high highHeld := rounds.le rfl below
  have notBelow : finite low lowHeld ≤ number := rounds.ge rfl above
  obtain ⟨result, stands⟩ := exists_toRat?_of_between rfl rfl notBelow notAbove
  exact ⟨result, stands, (le_iff rfl stands).1 notBelow, (le_iff stands rfl).1 notAbove⟩

end Rounds

/-- A number is the answer with the value that it stands for. -/
theorem rounds_self {number : Binary format} {value : Rat} (exact : number.toRat? = some value) :
    number.Rounds value := by
  -- Only a negative zero is not what its value is rounded to.
  rcases exact_cases exact with ⟨rfl, rfl⟩ | ⟨held, rfl⟩
  · exact .inr ⟨rfl, rfl⟩
  · exact .inl (round_of_holds held).symm

/-- Negating a number negates its value. -/
theorem toRat?_neg {number : Binary format} {value : Rat} (exact : number.toRat? = some value) :
    number.neg.toRat? = some (-value) := by
  -- A zero changes its sign and not its value.
  rcases exact_cases exact with ⟨rfl, rfl⟩ | ⟨held, rfl⟩
  · simp [neg]
  · by_cases nothing : value = 0
    · simp [neg, nothing, toRat?]
    · simp [neg, nothing, toRat?]

section Operations

variable {left right : Binary format} {first second : Rat}

/-- A sum is the exact sum rounded once. -/
theorem rounds_add (leftExact : left.toRat? = some first) (rightExact : right.toRat? = some second) :
    (left + right).Rounds (first + second) := by
  -- Adding a negative zero answers the other part, which is its own rounding.
  show (left.add right).Rounds _
  rcases exact_cases leftExact with ⟨rfl, rfl⟩ | ⟨leftHeld, rfl⟩
  · have same : negativeZero.add right = right := by cases right <;> rfl
    rw [same, zero_add]
    exact rounds_self rightExact
  · rcases exact_cases rightExact with ⟨rfl, rfl⟩ | ⟨rightHeld, rfl⟩
    · rw [add_zero]
      exact rounds_self leftExact
    · exact .inl rfl

/-- A difference is the exact difference rounded once. -/
theorem rounds_sub (leftExact : left.toRat? = some first) (rightExact : right.toRat? = some second) :
    (left - right).Rounds (first - second) := by
  -- A difference is the sum with the opposite number.
  rw [sub_eq_add_neg]
  exact rounds_add leftExact (toRat?_neg rightExact)

/-- A product is the exact product rounded once. -/
theorem rounds_mul (leftExact : left.toRat? = some first) (rightExact : right.toRat? = some second) :
    (left * right).Rounds (first * second) := by
  -- A zero factor makes the product a zero, whose sign alone depends on the other factor.
  show (left.mul right).Rounds _
  rcases exact_cases leftExact with ⟨rfl, rfl⟩ | ⟨leftHeld, rfl⟩ <;>
    rcases exact_cases rightExact with ⟨rfl, rfl⟩ | ⟨rightHeld, rfl⟩
  · exact .inr ⟨by simp, toRat?_signedZero _⟩
  · exact .inr ⟨by simp, toRat?_signedZero _⟩
  · exact .inr ⟨by simp, toRat?_signedZero _⟩
  · simp only [mul]
    split
    · rename_i nothing
      exact .inr ⟨mul_eq_zero.2 nothing, toRat?_signedZero _⟩
    · exact .inl rfl

/-- A quotient is the exact quotient rounded once, unless the divisor is a zero. -/
theorem rounds_div (leftExact : left.toRat? = some first) (rightExact : right.toRat? = some second)
    (divisor : second ≠ 0) : (left / right).Rounds (first / second) := by
  -- A zero dividend makes the quotient a zero.
  show (left.div right).Rounds _
  rcases exact_cases rightExact with ⟨_, nothing⟩ | ⟨rightHeld, rfl⟩
  · exact absurd nothing divisor
  · rcases exact_cases leftExact with ⟨rfl, rfl⟩ | ⟨leftHeld, rfl⟩
    · simp only [div, isZero, toRat?]
      simp [divisor, Rounds]
    · by_cases nothing : first = 0
      · simp only [div, isZero, toRat?]
        simp [divisor, nothing, Rounds]
      · simp only [div, isZero, toRat?]
        simp [divisor, nothing, Rounds]

/-- A value is rounded once when it is brought to another format. -/
theorem rounds_convert {target : Format} (exact : left.toRat? = some first) :
    (left.convert : Binary target).Rounds first := by
  -- A negative zero stays one.
  rcases exact_cases exact with ⟨rfl, rfl⟩ | ⟨held, rfl⟩
  · exact .inr ⟨rfl, rfl⟩
  · exact .inl rfl

/-- The nearest whole number is rounded once, as it may have more bits than the format keeps. -/
theorem rounds_nearestWhole (exact : left.toRat? = some first) :
    left.nearestWhole.Rounds (nearestInt first) := by
  -- A zero keeps its sign, and so does what is rounded to zero.
  rcases exact_cases exact with ⟨rfl, rfl⟩ | ⟨held, rfl⟩
  · have nothing : nearestInt 0 = 0 := le_antisymm (nearestInt_le (by simp)) (le_nearestInt (by simp))
    exact .inr ⟨by rw [nothing, Int.cast_zero], rfl⟩
  · simp only [nearestWhole]
    split
    · rename_i nothing
      exact .inr ⟨by exact_mod_cast nothing, toRat?_signedZero _⟩
    · exact .inl rfl

/-- Of two numbers with values the second one is taken only where it is strictly larger. -/
theorem larger_eq (leftExact : left.toRat? = some first) (rightExact : right.toRat? = some second) :
    left.larger right = if left < right then right else left := by
  -- The case that is left out is that of no number, which has no value.
  rcases exact_cases leftExact with ⟨rfl, _⟩ | ⟨_, rfl⟩ <;>
    rcases exact_cases rightExact with ⟨rfl, _⟩ | ⟨_, rfl⟩ <;> rfl

/-- The larger one of two numbers stands for the larger value. -/
theorem toRat?_larger (leftExact : left.toRat? = some first) (rightExact : right.toRat? = some second) :
    (left.larger right).toRat? = some (max first second) := by
  -- Numbers with values are compared as their values are.
  rw [larger_eq leftExact rightExact]
  split
  · rename_i less
    rw [rightExact, max_eq_right ((lt_iff leftExact rightExact).1 less).le]
  · rename_i notLess
    rw [lt_iff leftExact rightExact] at notLess
    rw [leftExact, max_eq_left (not_lt.1 notLess)]

/-- The largest of some numbers is one of them, or where the search began, and none is larger. -/
theorem toRat?_foldl_larger {numbers : List (Binary format)} {start : Binary format} {least : Rat}
    (startExact : start.toRat? = some least)
    (exact : ∀ number ∈ numbers, ∃ value, number.toRat? = some value) :
    ∃ largest, (numbers.foldl larger start).toRat? = some largest ∧
      (largest = least ∨ ∃ number ∈ numbers, number.toRat? = some largest) ∧ least ≤ largest ∧
      ∀ number ∈ numbers, ∀ value, number.toRat? = some value → value ≤ largest := by
  -- By induction on the list, with the start of the search free, since each number may replace it.
  induction numbers generalizing start least with
  | nil => exact ⟨least, startExact, .inl rfl, le_rfl, by simp⟩
  | cons number rest ih =>
    obtain ⟨value, stands⟩ := exact number List.mem_cons_self
    obtain ⟨largest, found, attained, above, others⟩ :=
      ih (toRat?_larger startExact stands) fun later member =>
        exact later (List.mem_cons_of_mem _ member)
    refine ⟨largest, found, ?_, le_trans (le_max_left _ _) above, ?_⟩
    · rcases attained with reached | ⟨later, member, reached⟩
      · -- Nothing in the rest is larger than the start and the first number.
        rcases max_choice least value with same | same
        · exact .inl (reached.trans same)
        · rw [reached, same]
          exact .inr ⟨number, List.mem_cons_self, stands⟩
      · exact .inr ⟨later, List.mem_cons_of_mem _ member, reached⟩
    · intro one member same sameStands
      rcases List.mem_cons.1 member with rfl | later
      · -- The first number was taken into account at once, and the largest only grows.
        rw [stands] at sameStands
        cases sameStands
        exact le_trans (le_max_right _ _) above
      · exact others one later same sameStands

/-- The search for the largest number stays where it began unless something is strictly larger. -/
theorem eq_or_lt_foldl_larger {numbers : List (Binary format)} {start : Binary format} {least : Rat}
    (startExact : start.toRat? = some least)
    (exact : ∀ number ∈ numbers, ∃ value, number.toRat? = some value) :
    numbers.foldl larger start = start ∨
      ∃ largest, (numbers.foldl larger start).toRat? = some largest ∧ least < largest := by
  -- By induction on the list: the search goes on with its start or with something larger.
  induction numbers generalizing start least with
  | nil => exact .inl rfl
  | cons number rest ih =>
    obtain ⟨value, stands⟩ := exact number List.mem_cons_self
    have others : ∀ later ∈ rest, ∃ value, later.toRat? = some value :=
      fun later member => exact later (List.mem_cons_of_mem _ member)
    rw [List.foldl_cons, larger_eq startExact stands]
    split
    · -- The search goes on from a number that is larger already.
      rename_i less
      have above := (lt_iff startExact stands).1 less
      rcases ih stands others with same | ⟨largest, found, beyond⟩
      · exact .inr ⟨value, by rw [same, stands], above⟩
      · exact .inr ⟨largest, found, above.trans beyond⟩
    · exact ih startExact others

/-- A search from zero on that finds the value zero has found the positive zero. -/
theorem foldl_larger_eq_zero {numbers : List (Binary format)}
    (exact : ∀ number ∈ numbers, ∃ value, number.toRat? = some value)
    (nothing : (numbers.foldl larger 0).toRat? = some 0) : numbers.foldl larger 0 = 0 := by
  -- The search has kept its start, or has found something strictly larger.
  rcases eq_or_lt_foldl_larger toRat?_zero exact with same | ⟨largest, found, beyond⟩
  · exact same
  · -- Whatever is strictly larger than zero is not zero.
    rw [nothing] at found
    cases found
    exact absurd beyond (lt_irrefl 0)

/-- The largest number depends only on which numbers there are, and not on their order or repetition. -/
theorem foldl_larger_congr {numbers others : List (Binary format)}
    (exact : ∀ number ∈ numbers, ∃ value, number.toRat? = some value)
    (same : ∀ number, number ∈ numbers ↔ number ∈ others) :
    numbers.foldl larger 0 = others.foldl larger 0 := by
  have othersExact : ∀ number ∈ others, ∃ value, number.toRat? = some value :=
    fun number member => exact number ((same number).2 member)
  obtain ⟨largest, found, attained, nonneg, above⟩ := toRat?_foldl_larger toRat?_zero exact
  obtain ⟨again, foundAgain, attainedAgain, nonnegAgain, aboveAgain⟩ :=
    toRat?_foldl_larger toRat?_zero othersExact
  -- Each of the two values is zero or that of a number, which the other one is not below.
  have equal : largest = again := by
    refine le_antisymm ?_ ?_
    · rcases attained with rfl | ⟨number, member, stands⟩
      · exact nonnegAgain
      · exact aboveAgain number ((same number).1 member) largest stands
    · rcases attainedAgain with rfl | ⟨number, member, stands⟩
      · exact nonneg
      · exact above number ((same number).2 member) again stands
  subst equal
  -- A value does not tell the two zeros apart, but neither search ends with the negative one.
  by_cases nothing : largest = 0
  · subst nothing
    rw [foldl_larger_eq_zero exact found, foldl_larger_eq_zero othersExact foundAgain]
  · exact eq_of_toRat? found foundAgain nothing

/-- A difference is negative exactly when the first number is the smaller one, however close they are. -/
theorem sub_lt_zero_iff (leftExact : left.toRat? = some first)
    (rightExact : right.toRat? = some second) : left - right < 0 ↔ left < right := by
  -- Numbers of one format that differ do so by the finest unit at least, so their difference does not
  -- vanish.
  have rounds := rounds_sub leftExact rightExact
  rw [lt_iff leftExact rightExact]
  constructor
  · -- A difference that is not negative is rounded to one that is not.
    intro negative
    by_contra notLess
    have nonneg := rounds.ge toRat?_zero (by linarith [not_lt.1 notLess])
    exact not_lt_of_le nonneg negative
  · -- The difference is at least the finest unit in size, which rounding keeps.
    intro less
    have apart := Format.minUnit_le_add (holds_of_toRat? rightExact).2
      (Format.onGrid_neg (holds_of_toRat? leftExact).2) (by linarith)
    have unit : (0 : Rat) < 2 ^ format.minExponent := by positivity
    have nearest : format.nearest (first - second) ≤ -2 ^ format.minExponent :=
      Format.nearest_le (Format.onGrid_neg Format.onGrid_minUnit) (by linarith)
    rcases rounds with rounded | ⟨same, _⟩
    · rw [rounded]
      unfold round
      split
      · rw [if_neg (by linarith)]
        exact (lt_iff rfl toRat?_zero).2 (by linarith)
      · rw [zero_eq]
        simp [show first - second < 0 by linarith]
        rfl
    · linarith

end Operations

/-- Nothing is taken away by taking zero away. -/
@[simp] theorem sub_zero (number : Binary format) : number - 0 = number := by
  -- The negative of zero is the negative zero, which adds nothing.
  show number.add (neg 0) = number
  rw [zero_eq]
  cases number <;> simp [neg, add]

/-- A number above zero is its own size. -/
theorem abs_of_pos {number : Binary format} (positive : 0 < number) : number.abs = number := by
  -- Only a number with a negative sign is changed.
  rw [zero_eq] at positive
  have sign : number.isNegative = false := by
    cases number with
    | nan => rfl
    | infinite negative => cases negative <;> first | rfl | cases positive
    | negativeZero => cases positive
    | finite value held =>
      have above : 0 < value := (lt_iff rfl rfl).1 positive
      simp [isNegative, above.le]
  simp [abs, sign]

end PdfResize.Binary
