import PdfResize.Proofs.Document.Measuring
import PdfResize.Proofs.Document.PageTree
import PdfResize.Proofs.Document.Restating

/-! A document reduced to one of its pages, which measures in it as it did among the others. -/

namespace PdfResize.Document

/-- The document with a page tree whose topmost node has one page as its only kid. -/
def alone (document : Document) (id : ObjectId) : Document :=
  let reduced? := do
    let top ← document.pageTreeRoot?
    (document.modifyDictionary top fun node =>
      node.set (ascii "Kids") (.array [.reference id])).toOption
  reduced?.getD document

variable {document : Document} {id top stored : ObjectId} {node : Dictionary} {number : Nat}
  {measured : List MeasuredPage} {page : MeasuredPage}

/-- A document with a page has a page tree, at the top of which is a dictionary. -/
theorem exists_top_of_mem_pageIds (listed : id ∈ document.pageIds) :
    ∃ (top stored : ObjectId) (node : Dictionary), document.pageTreeRoot? = some top ∧
      document.resolve top = .ok (stored, .dictionary node) := by
  unfold pageIds at listed
  cases root : document.pageTreeRoot? with
  | none =>
    rw [root] at listed
    cases listed
  | some top =>
    rw [root] at listed
    cases found : document.dictionary top with
    | ok node =>
      obtain ⟨stored, resolved⟩ := exists_resolve_of_dictionary found
      exact ⟨top, stored, node, rfl, resolved⟩
    | error cause =>
      -- Without a dictionary there are no kids, and a walk over nothing finds nothing.
      have nothing : document.kids top = [] := by
        rw [kids, found]
      simp only [nothing] at listed
      rw [walk_of_none rfl] at listed
      cases listed

section Listed

variable (root : document.pageTreeRoot? = some top)
  (resolved : document.resolve top = .ok (stored, .dictionary node))

include root resolved

/-- The document reduced to one page has one entry of the topmost node changed. -/
theorem alone_eq (id : ObjectId) : document.alone id =
    document.put stored (.dictionary (node.set (ascii "Kids") (.array [.reference id]))) := by
  -- The root and the node it names are given, so one dictionary is put.
  unfold alone modifyDictionary
  rw [root, Option.bind_eq_bind, Option.bind_some, resolved]
  rfl

/-- Listing one page alone changes one entry of the root node and nothing else. -/
theorem frame_alone (id : ObjectId) :
    Frame [ascii "Kids"] (· = stored) 0 document (document.alone id) := by
  -- The only key that is set is the list of kids.
  rw [alone_eq root resolved]
  refine frame_put (get?_of_resolve resolved) fun key apart => ?_
  exact node.get?_set_other (fun same => apart (List.mem_singleton.2 same)) _

/-- Where a page stands among the kids of its parents does not matter for its size. -/
theorem pageSize_alone (number : Nat) (id other : ObjectId) :
    (document.alone other).pageSize number id = document.pageSize number id := by
  -- Of a node the search for a box reads the parent and the box, and the kids are neither.
  rw [alone_eq root resolved]
  refine (alike_dictionary _ (get?_of_resolve resolved) ?_ ?_).pageSize_eq trivial
  · exact node.get?_set_other (by decide) _
  · rw [node.get?_set_other (by decide)]
    exact rel_sameSize_refl _ fun box => .refl _

end Listed

/-- The document reduced to one of its pages has this page and no other. -/
theorem pages_alone (listed : id ∈ document.pageIds) : (document.alone id).pages = [⟨1, id⟩] := by
  obtain ⟨top, stored, node, root, resolved⟩ := exists_top_of_mem_pageIds listed
  have frame := frame_alone root resolved id
  have present := get?_of_resolve resolved
  -- The topmost node has the one kid, which counts as the page that it counted as.
  have kids : (document.alone id).kids top = [.reference id] := by
    have found : (document.alone id).dictionary top =
        .ok (node.set (ascii "Kids") (.array [.reference id])) := by
      rw [alone_eq root resolved, dictionary_put _ present, if_pos (place?_of_resolve resolved)]
    rw [kids, found]
    simp [Object.items?]
  have kind : (document.alone id).classifyKid (.reference id) = .page id := by
    rw [frame.classifyKid_eq (by decide) (by decide), classifyKid_of_mem_pageIds listed]
  -- The node itself is an object, so the budget is enough for one kid.
  obtain ⟨budget, enough⟩ : ∃ budget, (document.alone id).objects.size = budget + 1 := by
    rw [frame.size_eq]
    exact Nat.exists_eq_add_one.2 (Store.size_pos present)
  have walked : (document.alone id).pageIds = [id] := by
    simp only [pageIds, frame.pageTreeRoot?_eq (by decide), root, kids, enough, walk, nextKid, kind]
    rw [walk_of_none rfl]
  rw [pages, walked]
  rfl

/-- A page measures by itself what it measures among the others. -/
theorem measuredPages_alone (found : document.measuredPages = .ok measured)
    (member : page ∈ measured) :
    (document.alone page.id).measuredPages = .ok [⟨⟨1, page.id⟩, page.size⟩] := by
  -- The page is listed, so that it is the one that is left.
  obtain ⟨same, each⟩ := measuredPages_eq_ok_iff.1 found
  have among : page.toPage ∈ document.pages := same ▸ List.mem_map_of_mem member
  have listed : page.id ∈ document.pageIds := mem_pageIds_iff.2 ⟨page.toPage, among, rfl⟩
  obtain ⟨top, stored, node, root, resolved⟩ := exists_top_of_mem_pageIds listed
  refine measuredPages_eq_ok_iff.2 ⟨(pages_alone listed).symm, ?_⟩
  rintro one inside
  obtain rfl := List.mem_singleton.1 inside
  -- The number changes, and only errors mention it.
  exact pageSize_congr rfl ((pageSize_alone root resolved _ _ _).trans (each page member))

end PdfResize.Document
