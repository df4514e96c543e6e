import PdfResize.Proofs.Document.Measuring
import PdfResize.Proofs.Document.Splicing
import PdfResize.Proofs.Fit.Fitted
import PdfResize.Proofs.Fit.Passes
import PdfResize.Proofs.Number.Accuracy
import PdfResize.Proofs.Number.Nearness
import PdfResize.Proofs.Number.Text

/-! The operands that scale the pages of a document, and the factors so small that the operands are zero. -/

namespace PdfResize

/-- A text stands for two values: the one of the coordinate it is read as, and the one that its digits write. -/
structure Denotes (text : String) (scale written : Rat) : Prop where
  /-- The digits are read as a coordinate, which takes them to the nearest one. -/
  coordinate : ∃ number : Single, Binary.ofText? text = some number ∧ number.toRat? = some scale
  /-- Without a sign and before any rounding the digits write this value. -/
  digits : ∃ size : Decimal, Numeral.ofUnsigned? false text.toList = some ⟨false, size⟩ ∧
    size.toRat = written

/-- The tokens of a stream that scales both axes by a number in this text, between saved graphics states. -/
def scalingTokens (text : String) : List Bytes :=
  ["q", text, "0", "0", text, "0", "0", "cm", "q"].map ascii

/-! ### The number that a factor is brought to -/

/-- A factor that shrinks stands for a value above zero and up to one. -/
theorem Document.exists_toRat?_of_validateFactor {factor : Double}
    (valid : validateFactor factor = .ok ()) :
    ∃ exact, factor.toRat? = some exact ∧ 0 < exact ∧ exact ≤ 1 := by
  -- The check is a pair of bounds, and both bounds are finite.
  unfold validateFactor at valid
  split at valid
  · -- No infinity lies between zero and one, and what is no number is not compared.
    rename_i bounds
    obtain ⟨above, below⟩ := bounds
    obtain ⟨exact, stands⟩ := Binary.exists_toRat?_of_between Binary.toRat?_zero Double.toRat?_one
      (Binary.le_of_lt above) below
    exact ⟨exact, stands, (Binary.lt_iff Binary.toRat?_zero stands).1 above,
      (Binary.le_iff stands Double.toRat?_one).1 below⟩
  · cases valid

/-- A factor that shrinks is brought to a coordinate up to one, which is zero up to half of the finest unit. -/
theorem Double.exists_convert {factor : Double} {exact : Rat} (stands : factor.toRat? = some exact)
    (positive : 0 < exact) (atMost : exact ≤ 1) :
    ∃ scale, (factor.convert : Single).toRat? = some scale ∧
      (factor.convert : Single).isNegative = false ∧ 0 ≤ scale ∧ scale ≤ 1 ∧
      (0 < scale ↔ 2 ^ (-150 : Int) < exact) := by
  -- The conversion rounds the exact value once, and the smaller format has a finest unit.
  have rounds : (factor.convert : Single).Rounds exact := Binary.rounds_convert stands
  obtain ⟨scale, converted, nonneg, below⟩ :=
    rounds.between (Format.holds_zero _) (Binary.holds_of_toRat? Single.toRat?_one) positive.le atMost
  have nearest : Format.single.nearest exact = scale := (rounds.eq_nearest converted).symm
  refine ⟨scale, converted, ?_, nonneg, below, ?_⟩
  · -- The exact value is not zero, so there is no zero whose sign would have to be looked at.
    rcases rounds with same | ⟨nothing, _⟩
    · rw [same, Binary.round_of_nearest positive.le nearest (Binary.holds_of_toRat? converted)]
      exact decide_eq_false (not_lt.2 nonneg)
    · exact absurd nothing positive.ne'
  · -- Rounding leaves nothing exactly of the values up to half of the finest unit.
    rw [Format.nearest, if_neg (not_lt.2 positive.le)] at nearest
    have nothing : scale = 0 ↔ exact ≤ 2 ^ (-150 : Int) := by
      rw [← nearest]
      exact Format.nearestSize_eq_zero_iff positive.le
    rw [← not_le (a := exact), ← nothing]
    exact ⟨fun above => above.ne', fun proper => lt_of_le_of_ne nonneg (Ne.symm proper)⟩

/-! ### The text in a stream -/

/-- A digit is no blank. -/
theorem Byte.isBlank_digit {digit : Char} (isDigit : digit.isDigit = true) :
    isBlank digit.toNat.toUInt8 = false := by
  -- The digits are ten bytes in a row.
  have codes : ∀ code < 58, 48 ≤ code → isBlank (Nat.toUInt8 code) = false := by decide
  rw [Char.isDigit, Bool.and_eq_true, decide_eq_true_eq, decide_eq_true_eq] at isDigit
  exact codes digit.toNat (Nat.lt_succ_of_le isDigit.2) isDigit.1

/-- Digits and points are no blanks. -/
theorem Decimal.Writes.solid {text : String} {value : Rat} {whole fraction : List Char}
    (writes : Writes text.toList value whole fraction) :
    ∀ byte ∈ ascii text, Byte.isBlank byte = false := by
  -- The text is digits, and a point if there is a fraction.
  intro byte inside
  obtain ⟨char, among, rfl⟩ := List.mem_map.1 inside
  rw [writes.chars_eq] at among
  rcases List.mem_append.1 among with before | behind
  · exact Byte.isBlank_digit (writes.wholeDigits char before)
  · split at behind
    · cases behind
    · rcases List.mem_cons.1 behind with rfl | last
      · rfl
      · exact Byte.isBlank_digit (writes.fractionDigits char last)

/-- The stream before the content scales both axes by what the text of the factor stands for. -/
theorem Wrapping.tokens_opening_scaling {factor : Single}
    (token : (ascii factor.text).tokens = [ascii factor.text]) :
    (Wrapping.scaling factor).separated.opening.tokens = scalingTokens factor.text := by
  -- The text of the factor stands twice, each time between blanks.
  have split : (Wrapping.scaling factor).separated.opening = ascii "q" ++ 10 :: (ascii factor.text ++
      32 :: (ascii "0 0" ++ 32 :: (ascii factor.text ++ 32 :: ascii "0 0 cm\nq\n"))) := by
    rw [separated_scaling]
    simp [ascii]
  have first : (ascii "q").tokens = [ascii "q"] := by decide
  have middle : (ascii "0 0").tokens = [ascii "0", ascii "0"] := by decide
  have last : (ascii "0 0 cm\nq\n").tokens = [ascii "0", ascii "0", ascii "cm", ascii "q"] := by decide
  rw [split, Bytes.tokens_append_cons _ _ rfl, Bytes.tokens_append_cons _ _ rfl,
    Bytes.tokens_append_cons _ _ rfl, Bytes.tokens_append_cons _ _ rfl, token, first, middle, last]
  rfl

/-- A coordinate up to one that is not negative is one operand whose text stands for its value. -/
theorem Single.exists_denotes {number : Single} {scale : Rat} (exact : number.toRat? = some scale)
    (sign : number.isNegative = false) (atMost : scale ≤ 1) :
    ∃ written, Denotes number.text scale written ∧ 0 ≤ written ∧ written ≤ 1 ∧
      (0 < written ↔ 0 < scale) ∧
      (Wrapping.scaling number).separated.opening.tokens = scalingTokens number.text := by
  -- The digits of the text are a decimal up to one, though not always the value that is rounded to.
  obtain ⟨written, whole, fraction, writes, nonneg, _, positive, below⟩ := exists_writes exact sign
  obtain ⟨size, read, value⟩ := Numeral.exists_ofUnsigned? writes false
  obtain ⟨digit, rest, chars, _⟩ := writes.exists_digit
  have nonempty : ascii number.text ≠ [] := by simp [ascii, chars]
  exact ⟨written, ⟨⟨number, ofText?_text exact sign, exact⟩, size, read, value⟩, nonneg, below atMost,
    positive, Wrapping.tokens_opening_scaling (Bytes.tokens_of_solid nonempty writes.solid)⟩

namespace Document

/-! ### The streams that are added -/

variable {first second third document later start result : Document} {id stored : ObjectId}
  {contents : List Bytes} {wrapping : Wrapping} {factor : Single} {target : PageSize}
  {pages : List MeasuredPage}

/-- A stream of a later document was there before, in the same place, or is one of these contents. -/
def AddsOnly (contents : List Bytes) (before after : Document) : Prop :=
  ∀ id entries content, after.objects.get? id = some (.stream entries content) →
    before.objects.get? id = some (.stream entries content) ∨ content ∈ contents

namespace AddsOnly

/-- A document adds no stream to itself. -/
theorem refl (contents : List Bytes) (document : Document) : AddsOnly contents document document :=
  -- Every stream was there.
  fun _ _ _ found => .inl found

/-- Streams that are added in two changes are among those that may be added. -/
theorem trans (left : AddsOnly contents first second) (right : AddsOnly contents second third) :
    AddsOnly contents first third := by
  -- A stream that is there now was added by the second change, by the first, or not at all.
  intro id entries content found
  rcases right id entries content found with before | among
  · exact left id entries content before
  · exact .inr among

/-- Putting a dictionary adds no stream. -/
theorem put (document : Document) (stored : ObjectId) (entries : Dictionary) :
    AddsOnly contents document (document.put stored (.dictionary entries)) := by
  -- What is put is no stream.
  intro id other content found
  rw [get?_put] at found
  split at found
  · cases found
  · exact .inl found

/-- Adding a stream adds only that one. -/
theorem add (document : Document) {bytes : Bytes} (among : bytes ∈ contents) :
    AddsOnly contents document (document.add (.ofContent bytes)) := by
  -- Every other object was there.
  intro id entries content found
  rw [get?_add] at found
  split at found
  · cases found
    exact .inr among
  · exact .inl found

end AddsOnly

/-- Two numbers that are given out one after the other differ. -/
theorem nextId_add_ne (document : Document) (object : Object) :
    document.nextId ≠ (document.add object).nextId := by
  -- Numbers come round, but not after one step.
  intro same
  have number : ObjectId.numberAfter document.maxId =
      ObjectId.numberAfter (ObjectId.numberAfter document.maxId) := congrArg ObjectId.number same
  simp only [ObjectId.numberAfter, UInt32.size] at number
  omega

/-- Wrapping content adds the two streams of the wrapping, and the one before the content is there to stay. -/
theorem addsOnly_wrapContent (wrapped : document.wrapContent id wrapping = (.ok (), later)) :
    AddsOnly [wrapping.separated.opening, wrapping.separated.closing] document later ∧
      ∃ place, later.objects.get? place = some (.ofContent wrapping.separated.opening) := by
  unfold wrapContent at wrapped
  split at wrapped
  · cases wrapped
  · simp only at wrapped
    split at wrapped
    · rename_i changed
      cases wrapped
      obtain ⟨stored, entries, found, rfl⟩ := exists_resolve_of_modifyDictionary changed
      refine ⟨((AddsOnly.add _ (by simp)).trans (.add _ (by simp))).trans (.put _ _ _),
        document.nextId, ?_⟩
      -- The page that gets the list is a dictionary, and so it is not where the stream is.
      have opening : ((document.add (.ofContent wrapping.separated.opening)).add
          (.ofContent wrapping.separated.closing)).objects.get? document.nextId =
          some (.ofContent wrapping.separated.opening) := by
        rw [get?_add, if_neg (nextId_add_ne document _), get?_add, if_pos rfl]
      have apart : document.nextId ≠ stored := by
        rintro rfl
        rw [get?_of_resolve found] at opening
        cases opening
      rw [get?_put, if_neg apart, opening]
    · cases wrapped

/-- A pass that shrinks adds no streams but those of its wrapping, and one before the content where there are pages. -/
theorem addsOnly_eachPage
    (passed : document.eachPage (shrinkPage target factor) pages = (.ok (), result)) :
    AddsOnly [(Wrapping.scaling factor).separated.opening, (Wrapping.scaling factor).separated.closing]
        document result ∧
      (pages ≠ [] → ∃ place, result.objects.get? place =
        some (.ofContent (Wrapping.scaling factor).separated.opening)) := by
  refine @eachPage_holds _ (fun done current => AddsOnly _ document current ∧
    (done ≠ [] → ∃ place, current.objects.get? place = some (.ofContent _))) _ _ _ ?_
    ⟨.refl _ _, fun some => absurd rfl some⟩ passed
  -- Each page gets its boxes, which are no stream, and its own two streams.
  rintro done page rest current later _ ⟨added, _⟩ taken
  unfold shrinkPage at taken
  split at taken
  · rename_i boxed
    obtain ⟨stored, entries, _, rfl⟩ := exists_resolve_of_setPageBoxes boxed
    obtain ⟨wrapped, opening⟩ := addsOnly_wrapContent taken
    exact ⟨(added.trans (.put _ _ _)).trans wrapped, fun _ => opening⟩
  · cases taken

/-! ### From the factor to the operands -/

/-- The streams of a document behind a pass that scales its pages by the number in a text. -/
structure ScaledBy (text : String) (before after : Document) : Prop where
  /-- A stream was there before, or it scales both axes by the number, or it goes with one that does. -/
  streams : ∀ id entries content, after.objects.get? id = some (.stream entries content) →
    before.objects.get? id = some (.stream entries content) ∨
      content.tokens = scalingTokens text ∨ content = ascii "\nQ\nQ\n"
  /-- Where there are pages, there is a stream that scales. -/
  scaled : before.pages ≠ [] → ∃ id entries content,
    after.objects.get? id = some (.stream entries content) ∧ content.tokens = scalingTokens text

/-- Scaling is a pass over the measured pages, by a factor that shrinks. -/
theorem exists_pass_of_scaleDown {factor : Double}
    (shrunk : document.scaleDown factor target = (.ok (), result)) :
    validateFactor factor = .ok () ∧ ∃ measured, document.measuredPages = .ok measured ∧
      document.eachPage (shrinkPage target factor.convert) measured = (.ok (), result) := by
  -- A scaling down that succeeds has passed every check and then every page.
  unfold scaleDown at shrunk
  simp only at shrunk
  split at shrunk
  · -- Target, factor and pages have been accepted, in this order.
    rename_i measured checked
    obtain ⟨_, _, rest⟩ := bind_eq_ok_iff.1 checked
    obtain ⟨_, valid, found⟩ := bind_eq_ok_iff.1 rest
    exact ⟨valid, measured, found, shrunk⟩
  · cases shrunk

/--
The streams that scaling adds before the contents all scale both axes by one text.

What the text stands for is never negative and never above one. It is nothing for a factor up to two to the
power of -150, half of the finest unit of a coordinate, which is a factor above zero all the same.
-/
theorem operands_of_scaleDown {factor : Double}
    (shrunk : document.scaleDown factor target = (.ok (), result)) :
    ∃ (exact : Rat) (text : String) (scale written : Rat),
      factor.toRat? = some exact ∧ 0 < exact ∧ exact ≤ 1 ∧
      ScaledBy text document result ∧ Denotes text scale written ∧
      0 ≤ scale ∧ scale ≤ 1 ∧ 0 ≤ written ∧ written ≤ 1 ∧
      (0 < scale ↔ 2 ^ (-150 : Int) < exact) ∧ (0 < written ↔ 2 ^ (-150 : Int) < exact) := by
  -- The factor is converted once and written once, and every wrap uses the same text.
  obtain ⟨valid, measured, found, passed⟩ := exists_pass_of_scaleDown shrunk
  obtain ⟨exact, stands, positive, atMost⟩ := exists_toRat?_of_validateFactor valid
  obtain ⟨scale, converted, sign, nonneg, below, something⟩ :=
    Double.exists_convert stands positive atMost
  obtain ⟨written, denotes, writtenNonneg, writtenBelow, same, tokens⟩ :=
    Single.exists_denotes converted sign below
  obtain ⟨added, opening⟩ := addsOnly_eachPage passed
  refine ⟨exact, _, scale, written, stands, positive, atMost, ⟨?_, ?_⟩, denotes, nonneg, below,
    writtenNonneg, writtenBelow, something, same.trans something⟩
  · -- What is added comes before the content and scales, or it comes after the content.
    intro id entries content stored
    rcases added id entries content stored with before | among
    · exact .inl before
    · right
      simp only [List.mem_cons, List.not_mem_nil, or_false] at among
      rcases among with rfl | rfl
      · exact .inl tokens
      · exact .inr (by rw [Wrapping.separated_scaling])
  · -- Every page is measured, so the pass has a page to scale.
    intro pages
    have nonempty : measured ≠ [] := by
      rintro rfl
      exact pages (measuredPages_eq_ok_iff.1 found).1.symm
    obtain ⟨place, stored⟩ := opening nonempty
    exact ⟨place, _, _, stored, tokens⟩

/-- A page with a stream as content. -/
def drawnPage : Document :=
  ofKids (.array [.integer 0, .integer 0, .integer 500, .integer 600])
    [.dictionary [(ascii "Type", .name (ascii "Page")), (ascii "Parent", .reference ⟨2, 0⟩),
        (ascii "Contents", .reference ⟨4, 0⟩)],
      .ofContent (ascii "0 0 1 1 re f")]

/-- Halving a page that draws writes a positive operand. -/
theorem drawnPage_operands :
    (drawnPage.scaleDown 0.5 ⟨250, 300⟩).1 = .ok () ∧ drawnPage.pages ≠ [] ∧
      ∃ (text : String) (scale written : Rat) (id : ObjectId) (entries : Dictionary) (content : Bytes),
        (drawnPage.scaleDown 0.5 ⟨250, 300⟩).2.objects.get? id = some (.stream entries content) ∧
        content.tokens = scalingTokens text ∧ Denotes text scale written ∧
        0 < scale ∧ scale ≤ 1 ∧ 0 < written ∧ written ≤ 1 := by
  -- One half is far above the bound, and the rest is the theorem.
  have shrinks : (drawnPage.scaleDown 0.5 ⟨250, 300⟩).1 = .ok () := by decide +kernel
  have pages : drawnPage.pages ≠ [] := by decide +kernel
  have half : (0.5 : Double).toRat? = some (1 / 2) := by decide +kernel
  obtain ⟨exact, text, scale, written, stands, _, _, scaled, denotes, _, scaleBelow, _, writtenBelow,
    scalePositive, writtenPositive⟩ := operands_of_scaleDown (Prod.ext shrinks rfl)
  rw [half] at stands
  cases stands
  have large : (2 : Rat) ^ (-150 : Int) < 1 / 2 := by norm_num
  obtain ⟨id, entries, content, stored, tokens⟩ := scaled.scaled pages
  exact ⟨shrinks, pages, text, scale, written, id, entries, content, stored, tokens, denotes,
    scalePositive.2 large, scaleBelow, writtenPositive.2 large, writtenBelow⟩

/-- A factor above zero that no coordinate comes near takes everything that a page draws to one point. -/
theorem drawnPage_collapsed :
    (0 : Double) < 1e-60 ∧ (drawnPage.scaleDown 1e-60 ⟨250, 300⟩).1 = .ok () ∧
      (drawnPage.scaleDown 1e-60 ⟨250, 300⟩).2.drawn? ⟨3, 0⟩ =
        some (ascii "q\n0 0 0 0 0 0 cm\nq\n0 0 1 1 re f\nQ\nQ\n") ∧
      (ascii "q\n0 0 0 0 0 0 cm\nq\n").tokens = scalingTokens "0" ∧
      Binary.ofText? "0" = some (0 : Single) := by
  -- The run is evaluated, and its content has a zero where the factor should be.
  decide +kernel

end Document

end PdfResize
