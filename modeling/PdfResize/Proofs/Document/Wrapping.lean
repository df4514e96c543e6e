import PdfResize.Proofs.Document.Content
import PdfResize.Proofs.Document.PageBox
import PdfResize.Proofs.Number.Text

/-! Wrapping the content of a page: the two new streams, the new list around the old one, and all else kept. -/

namespace PdfResize

/-- The bytes of a text are the bytes of its parts. -/
theorem ascii_append (left right : String) : ascii (left ++ right) = ascii left ++ ascii right := by
  -- The bytes are those of the characters, one by one.
  simp [ascii]

/-- The streams of a scaling: the graphics state is saved twice around the matrix and restored twice. -/
theorem Wrapping.separated_scaling (factor : Single) : (Wrapping.scaling factor).separated =
    ⟨ascii ("q\n" ++ factor.text ++ " 0 0 " ++ factor.text ++ " 0 0 cm\nq\n"), ascii "\nQ\nQ\n"⟩ := by
  -- Only the factor is not known, and its text stands between known bytes.
  have closing : endBlank (beginBlank (Operation.writeAll [.restore, .restore])) =
      ascii "\nQ\nQ\n" := by decide
  have written : (Wrapping.scaling factor).opening =
      ascii ("q\n" ++ factor.text ++ " 0 0 " ++ factor.text ++ " 0 0 cm\nq") := by
    simp only [Wrapping.scaling, Operation.writeAll, Operation.write, Operation.save,
      Operation.scale, Object.write, Single.text_zero, ascii_append, List.map_cons, List.map_nil,
      List.intersperse, List.flatten_cons, List.flatten_nil, List.flatMap_cons, List.flatMap_nil,
      List.append_assoc, List.nil_append, List.append_nil]
    rfl
  -- The last operator is followed by no blank yet.
  have opening : endBlank (Wrapping.scaling factor).opening =
      ascii ("q\n" ++ factor.text ++ " 0 0 " ++ factor.text ++ " 0 0 cm\nq\n") := by
    have last : (ascii ("q\n" ++ factor.text ++ " 0 0 " ++ factor.text ++ " 0 0 cm\nq")).getLast? =
        some 113 := by
      rw [ascii_append]
      have tail : ascii " 0 0 cm\nq" = ascii " 0 0 cm\n" ++ [113] := by decide
      rw [tail, ← List.append_assoc, List.getLast?_concat]
    rw [endBlank, written, last, if_neg (by decide)]
    have tail : ascii " 0 0 cm\nq\n" = ascii " 0 0 cm\nq" ++ [10] := by decide
    rw [ascii_append _ " 0 0 cm\nq", ascii_append _ " 0 0 cm\nq\n", tail, List.append_assoc]
  rw [separated, opening]
  exact congrArg _ closing

namespace Document

/-- The document with new streams around the content of a page that is stored in a place. -/
def wrapped (document : Document) (stored : ObjectId) (page : Dictionary) (items : List Object)
    (wrapping : Wrapping) : Document :=
  let opened := document.add (.ofContent wrapping.separated.opening)
  let closed := opened.add (.ofContent wrapping.separated.closing)
  let list := .reference document.nextId :: items ++ [.reference opened.nextId]
  closed.put stored (.dictionary (page.set (ascii "Contents") (.array list)))

variable {document : Document} {id stored : ObjectId} {page : Dictionary} {items : List Object}

/-- Adding two objects gives out the next two numbers and rewrites no place. -/
theorem rewrites_add_add (numbered : document.IsNumbered) (room : document.maxId + 2 < UInt32.size)
    (first second : Object) (keys : List Bytes) (places : ObjectId → Prop) :
    Rewrites keys places document ((document.add first).add second) ∧
      ((document.add first).add second).IsNumbered ∧
      ((document.add first).add second).maxId = document.maxId + 2 ∧
      document.nextId = ⟨document.maxId + 1, 0⟩ ∧
      (document.add first).nextId = ⟨document.maxId + 2, 0⟩ := by
  -- Both numbers are in range, so neither of the two additions comes round to zero.
  have roomFirst : document.maxId + 1 < UInt32.size := by omega
  have next := maxId_add roomFirst first
  have roomSecond : (document.add first).maxId + 1 < UInt32.size := by omega
  refine ⟨(rewrites_add numbered roomFirst first keys places).trans (rewrites_add
    (numbered.add roomFirst first) roomSecond second keys places),
    (numbered.add roomFirst first).add roomSecond second, ?_, nextId_eq roomFirst, ?_⟩
  · rw [maxId_add roomSecond, next]
  · rw [nextId_eq roomSecond, next]

/-- What wrapping the content of a page does to a document. -/
structure Wraps (wrapping : Wrapping) (stored : ObjectId) (page : Dictionary) (items : List Object)
    (before after : Document) : Prop where
  /-- Only the content entry of the page has changed, and only new numbers were given out. -/
  rewrites : Rewrites [ascii "Contents"] (· = stored) before after
  /-- Numbers are still given out upwards. -/
  numbered : after.IsNumbered
  /-- Two numbers were given out. -/
  maxId : after.maxId = before.maxId + 2
  /-- The first of them belongs to the stream before the content. -/
  opening : after.objects.get? ⟨before.maxId + 1, 0⟩ = some (.ofContent wrapping.separated.opening)
  /-- The second of them belongs to the stream after the content. -/
  closing : after.objects.get? ⟨before.maxId + 2, 0⟩ = some (.ofContent wrapping.separated.closing)
  /-- The page lists the old items between the two streams. -/
  list : after.objects.get? stored = some (.dictionary (page.set (ascii "Contents")
    (.array (.reference ⟨before.maxId + 1, 0⟩ :: items ++ [.reference ⟨before.maxId + 2, 0⟩]))))

/-- The wrapped document is one in which the page lists its contents between two new streams. -/
theorem wraps_wrapped (numbered : document.IsNumbered) (room : document.maxId + 2 < UInt32.size)
    (found : document.objects.get? stored = some (.dictionary page)) (wrapping : Wrapping) :
    Wraps wrapping stored page items document (document.wrapped stored page items wrapping) := by
  obtain ⟨rewrites, still, number, first, second⟩ := rewrites_add_add numbered room
    (.ofContent wrapping.separated.opening) (.ofContent wrapping.separated.closing)
    [ascii "Contents"] fun _ => False
  -- Adding the streams has left the page where it was.
  have present := rewrites.kept found not_false
  have relisted : Rewrites [ascii "Contents"] (· = stored) _
      (document.wrapped stored page items wrapping) :=
    rewrites_put present fun key apart =>
      page.get?_set_other (fun same => apart (List.mem_singleton.2 same)) _
  -- The page keeps its place, whose number was given out before the two new ones.
  have bounded := numbered stored _ found
  have firstApart : (⟨document.maxId + 1, 0⟩ : ObjectId) ≠ stored := by
    rintro rfl
    have past : document.maxId + 1 ≤ document.maxId := bounded
    omega
  have secondApart : (⟨document.maxId + 2, 0⟩ : ObjectId) ≠ stored := by
    rintro rfl
    have past : document.maxId + 2 ≤ document.maxId := bounded
    omega
  refine ⟨(rewrites.mono (fun _ inside => inside) fun _ never => never.elim).trans relisted,
    still.put present _, number, ?_, ?_, ?_⟩
  · simp [wrapped, firstApart, second, first]
  · simp [wrapped, secondApart, second]
  · simp [wrapped, second, first]

/-- Content that cannot be read is not wrapped, and nothing has been added for it. -/
theorem wrapContent_of_contents_error {error : FitError}
    (failed : document.contents id = .error error) (wrapping : Wrapping) :
    document.wrapContent id wrapping = (.error error, document) := by
  -- The contents are read before anything is written.
  unfold wrapContent
  rw [failed]

/-- Content that can be read is wrapped; the page is still there to receive the new list. -/
theorem wrapContent_eq (numbered : document.IsNumbered) (room : document.maxId + 2 < UInt32.size)
    (found : document.resolve id = .ok (stored, .dictionary page))
    (readable : document.contents id = .ok items) (wrapping : Wrapping) :
    document.wrapContent id wrapping = (.ok (), document.wrapped stored page items wrapping) := by
  -- The page is looked up again behind the two additions, which touch no place.
  obtain ⟨rewrites, _⟩ := rewrites_add_add numbered room (.ofContent wrapping.separated.opening)
    (.ofContent wrapping.separated.closing) [] fun _ => False
  have there := rewrites.resolve_apart found not_false
  unfold wrapContent
  rw [readable]
  simp only [modifyDictionary, there]
  rfl

end Document

end PdfResize
