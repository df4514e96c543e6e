import PdfResize.Document.Content

/-! The tokens of content streams, and why those of a wrapping do not merge with those of the content. -/

namespace PdfResize

/-- The tokens of a content stream: what stands between its blanks. -/
def Bytes.tokens (content : Bytes) : List Bytes :=
  (content.splitOnP Byte.isBlank).filter fun token => token ≠ []

namespace Bytes

variable {blank : UInt8}

/-- There are no tokens in no bytes. -/
@[simp] theorem tokens_nil : tokens [] = [] := by
  -- The only part of nothing is empty, and empty parts are no tokens.
  simp [tokens, List.splitOnP_nil]

/-- A blank divides the tokens before it from those behind it. -/
theorem tokens_append_cons (left right : Bytes) (isBlank : Byte.isBlank blank = true) :
    tokens (left ++ blank :: right) = tokens left ++ tokens right := by
  -- Splitting at the blank gives the parts on its two sides.
  simp only [tokens, List.splitOnP_append_cons left right isBlank, List.filter_append]

/-- A blank in front adds no token. -/
theorem tokens_cons (right : Bytes) (isBlank : Byte.isBlank blank = true) :
    tokens (blank :: right) = tokens right := by
  -- There is no token before the blank.
  simpa using tokens_append_cons [] right isBlank

/-- A blank at the end adds no token. -/
theorem tokens_concat (left : Bytes) (isBlank : Byte.isBlank blank = true) :
    tokens (left ++ [blank]) = tokens left := by
  -- There is no token behind the blank.
  simpa using tokens_append_cons left [] isBlank

/-- Bytes without a blank are a token. -/
theorem tokens_of_solid {bytes : Bytes} (nonempty : bytes ≠ [])
    (solid : ∀ byte ∈ bytes, Byte.isBlank byte = false) : tokens bytes = [bytes] := by
  -- Nothing splits bytes that have no blank among them.
  have whole : bytes.splitOnP Byte.isBlank = [bytes] :=
    List.splitOnP_eq_singleton fun byte inside => Bool.not_eq_true _ ▸ solid byte inside
  simp [tokens, whole, nonempty]

end Bytes

namespace Wrapping

/-- A blank is put at the end of bytes or is there already. -/
theorem endBlank_cases (bytes : Bytes) : endBlank bytes = bytes ∨ endBlank bytes = bytes ++ [10] := by
  -- The two cases are those of the definition.
  unfold endBlank
  split
  · exact .inl rfl
  · exact .inr rfl

/-- A blank is put in front of bytes or is there already. -/
theorem beginBlank_cases (bytes : Bytes) :
    beginBlank bytes = bytes ∨ beginBlank bytes = 10 :: bytes := by
  -- The two cases are those of the definition.
  unfold beginBlank
  split
  · exact .inl rfl
  · exact .inr rfl

/-- Bytes that are made to end in a blank have their own tokens before it. -/
theorem exists_endBlank_eq (bytes : Bytes) : ∃ (front : Bytes) (blank : UInt8),
    endBlank bytes = front ++ [blank] ∧ Byte.isBlank blank = true ∧ front.tokens = bytes.tokens := by
  -- The last byte is a blank that was there or one that was put there.
  unfold endBlank
  split
  · rename_i ends
    obtain ⟨blank, last, isBlank⟩ := (Option.any_eq_true ..).1 ends
    obtain ⟨front, rfl⟩ := List.getLast?_eq_some_iff.1 last
    exact ⟨front, blank, rfl, isBlank, (Bytes.tokens_concat front isBlank).symm⟩
  · exact ⟨bytes, 10, rfl, rfl, rfl⟩

/-- Bytes that are made to begin with a blank have their own tokens behind it. -/
theorem exists_beginBlank_eq (bytes : Bytes) : ∃ (blank : UInt8) (rest : Bytes),
    beginBlank bytes = blank :: rest ∧ Byte.isBlank blank = true ∧ rest.tokens = bytes.tokens := by
  -- The first byte is a blank that was there or one that was put there.
  unfold beginBlank
  split
  · rename_i begins
    obtain ⟨blank, first, isBlank⟩ := (Option.any_eq_true ..).1 begins
    obtain ⟨rest, rfl⟩ := List.head?_eq_some_iff.1 first
    exact ⟨blank, rest, rfl, isBlank, (Bytes.tokens_cons rest isBlank).symm⟩
  · exact ⟨10, bytes, rfl, rfl, rfl⟩

/-- What follows bytes that end with a blank has its tokens apart from theirs. -/
theorem tokens_endBlank_append (bytes right : Bytes) :
    (endBlank bytes ++ right).tokens = bytes.tokens ++ right.tokens := by
  -- The bytes are split at their last blank.
  obtain ⟨front, blank, ends, isBlank, same⟩ := exists_endBlank_eq bytes
  rw [ends, List.append_assoc, List.singleton_append, Bytes.tokens_append_cons front right isBlank, same]

/-- What precedes bytes that begin with a blank has its tokens apart from theirs. -/
theorem tokens_append_beginBlank (left bytes : Bytes) :
    (left ++ beginBlank bytes).tokens = left.tokens ++ bytes.tokens := by
  -- The bytes are split at their first blank.
  obtain ⟨blank, rest, begins, isBlank, same⟩ := exists_beginBlank_eq bytes
  rw [begins, Bytes.tokens_append_cons left rest isBlank, same]

/-- The content inside separated bytes, as it is drawn. -/
def around (wrapping : Wrapping) (content : Bytes) : Bytes :=
  wrapping.separated.opening ++ content ++ wrapping.separated.closing

/-- Tokens never merge where content meets what is put around it, whatever the three are. -/
theorem tokens_around (wrapping : Wrapping) (content : Bytes) :
    (wrapping.around content).tokens =
      wrapping.opening.tokens ++ content.tokens ++ wrapping.closing.tokens := by
  -- A line feed at the very end adds no token.
  have last : ∀ left, (left ++ wrapping.separated.closing).tokens =
      (left ++ beginBlank wrapping.closing).tokens := by
    intro left
    rcases endBlank_cases (beginBlank wrapping.closing) with same | added
    · rw [separated, same]
    · rw [separated, added, ← List.append_assoc, Bytes.tokens_concat _ rfl]
  rw [around, last, tokens_append_beginBlank, separated, tokens_endBlank_append]

/-- The bytes of one wrapping are those of another, with at most a line feed more at the end of what comes
before the content, and at most one more on either side of what comes after it. -/
def Pads (padded given : Wrapping) : Prop :=
  (padded.opening = given.opening ∨ padded.opening = given.opening ++ [10]) ∧
    ∃ before after : Bytes, padded.closing = before ++ given.closing ++ after ∧
      (before = [] ∨ before = [10]) ∧ (after = [] ∨ after = [10])

/-- Separating a wrapping only pads it with blanks. -/
theorem pads_separated (wrapping : Wrapping) : wrapping.separated.Pads wrapping := by
  -- There are two places in which a blank may be put before the closing part and after it, which makes four
  -- cases.
  refine ⟨endBlank_cases wrapping.opening, ?_⟩
  have ends := endBlank_cases (beginBlank wrapping.closing)
  rcases beginBlank_cases wrapping.closing with begins | begins <;> rw [begins] at ends
  · rcases ends with same | added
    · exact ⟨[], [], by simp [separated, begins, same], .inl rfl, .inl rfl⟩
    · exact ⟨[], [10], by simp [separated, begins, added], .inl rfl, .inr rfl⟩
  · rcases ends with same | added
    · exact ⟨[10], [], by simp [separated, begins, same], .inr rfl, .inl rfl⟩
    · exact ⟨[10], [10], by simp [separated, begins, added], .inr rfl, .inr rfl⟩

/-- Content inside one wrapping after another, the last of them outermost, as it is drawn. -/
def aroundAll (wrappings : List Wrapping) (content : Bytes) : Bytes :=
  wrappings.foldl (fun inner wrapping => wrapping.around inner) content

/-- Tokens inside those of one wrapping after another, the last of them outermost. -/
def tokensAround (wrappings : List Wrapping) (inside : List Bytes) : List Bytes :=
  wrappings.foldl (fun inner wrapping => wrapping.opening.tokens ++ inner ++ wrapping.closing.tokens)
    inside

/-- The tokens inside several wrappings are inside the tokens of each. -/
theorem tokens_aroundAll (wrappings : List Wrapping) (content : Bytes) :
    (aroundAll wrappings content).tokens = tokensAround wrappings content.tokens := by
  -- What is inside the first wrapping is the content of all others.
  induction wrappings generalizing content with
  | nil => rfl
  | cons wrapping rest ih =>
    rw [aroundAll, List.foldl_cons, ← aroundAll, ih, tokens_around, tokensAround, tokensAround,
      List.foldl_cons]

end Wrapping

end PdfResize
