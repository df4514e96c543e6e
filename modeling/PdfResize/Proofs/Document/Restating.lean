import Mathlib.Logic.Relation
import PdfResize.Proofs.Document.Ancestry
import PdfResize.Proofs.Document.Replacing
import PdfResize.Proofs.Number.Distance

/-! Other ways to write a media box down, which leave the sizes of pages as they are. -/

namespace PdfResize.Document

variable {document before after later : Document} {number : Nat} {id stored holder : ObjectId}
  {old new held box item : Object} {node changed : Dictionary} {items others : List Object}
  {kept : ObjectId → Prop}

/-! ### Documents that are measured alike -/

/-- Coordinates that give every page the same size, or the same error for want of one. -/
def SameSize (left right : Option (List Single)) : Prop :=
  ∀ number, sizeFrom number left = sizeFrom number right

/-- Corners give the sizes that they give. -/
theorem SameSize.refl (corners? : Option (List Single)) : SameSize corners? corners? :=
  -- There is one list of corners.
  fun _ => rfl

/-- The nodes that matter have the same parents in two documents, and boxes that say the same. -/
structure Alike (kept : ObjectId → Prop) (before after : Document) : Prop where
  parent : ∀ id, kept id → after.parent? id = before.parent? id
  keeps : ∀ id parent, kept id → before.parent? id = some parent → kept parent
  box : ∀ id, kept id → Option.Rel
    (fun old new => SameSize (before.boxCorners? old) (after.boxCorners? new))
    (before.boxAt? id) (after.boxAt? id)

/-- The corners of a box are the numbers among the items of its value. -/
theorem boxCorners?_eq (document : Document) (box : Object) : document.boxCorners? box =
    ((document.value box).toOption.bind Object.items?).bind (List.mapM document.coordinate?) := by
  -- The two sides only group the steps differently.
  simp only [boxCorners?, Option.bind_eq_bind, ← Option.bind_assoc]

/-- The way up leads through the same nodes in both documents, to boxes that say the same. -/
theorem Alike.sameSize (alike : Alike kept before after) (nodes : Nat) (holds : kept id) :
    SameSize ((before.mediaBox? nodes id).bind (List.mapM before.coordinate?))
      ((after.mediaBox? nodes id).bind (List.mapM after.coordinate?)) := by
  -- At each node either both documents have a box or both go on to the same parent.
  induction nodes generalizing id with
  | zero => exact .refl none
  | succ nodes ih =>
    rw [mediaBox?_succ, mediaBox?_succ, alike.parent id holds]
    have boxes := alike.box id holds
    revert boxes
    generalize before.boxAt? id = beforeBox, after.boxAt? id = afterBox
    rintro (same | _)
    · simp only [← boxCorners?_eq]
      exact same
    · cases named : before.parent? id with
      | none => exact .refl none
      | some parent => exact ih (alike.keeps id parent holds named)

/-- Documents with the same parents and boxes that say the same give a page the same size. -/
theorem Alike.pageSize_eq (alike : Alike kept before after) (holds : kept id) :
    after.pageSize number id = before.pageSize number id :=
  -- A page is measured by a search that the two documents share.
  (alike.sameSize ancestorLimit holds number).symm

/-! ### Look-ups that find the same -/

/-- Steps that agree on every input agree on the list of them. -/
theorem mapM_congr {Input Output : Type} {left right : Input → Option Output} {inputs : List Input}
    (same : ∀ input ∈ inputs, left input = right input) : inputs.mapM left = inputs.mapM right := by
  -- By induction on the inputs.
  induction inputs with
  | nil => rfl
  | cons input rest ih =>
    rw [List.mapM_cons, List.mapM_cons, same input List.mem_cons_self,
      ih fun later among => same later (List.mem_cons_of_mem _ among)]

section Agreement

variable (agree : ∀ id, kept id → (after.object id).toOption = (before.object id).toOption)
  (closed : ∀ id object, kept id → before.object id = .ok object →
    ∀ mentioned ∈ object.references, kept mentioned)

include agree

/-- Documents that agree on what an object mentions agree on its value. -/
theorem toOption_value_of_agree (inside : ∀ mentioned ∈ old.references, kept mentioned) :
    (after.value old).toOption = (before.value old).toOption := by
  -- Only a reference is looked up, and it mentions what it refers to.
  cases old with
  | reference id => exact agree id (inside id List.mem_cons_self)
  | _ => rfl

include closed

/-- Where look-ups agree, a media box says the same. -/
theorem boxCorners?_of_agree (inside : ∀ mentioned ∈ box.references, kept mentioned) :
    after.boxCorners? box = before.boxCorners? box := by
  rw [boxCorners?_eq, boxCorners?_eq, toOption_value_of_agree agree inside]
  cases read : (before.value box).toOption.bind Object.items? with
  | none => rw [Option.bind_none, Option.bind_none]
  | some items =>
    -- The array is the box or is stored, so that what its items mention matters.
    have array := items?_value_eq_some_iff.1 read
    have within : ∀ mentioned ∈ (Object.array items).references, kept mentioned := by
      cases box with
      | reference id => exact closed id _ (inside id List.mem_cons_self) array
      | array own =>
        cases array
        exact inside
      | _ => cases array
    rw [Option.bind_some, Option.bind_some]
    refine mapM_congr fun item among => ?_
    rw [coordinate?, coordinate?, toOption_value_of_agree agree fun mentioned deeper =>
      within mentioned (Object.mem_itemReferences.2 ⟨item, among, deeper⟩)]

/-- Documents in which the ids that matter lead to the same objects are measured alike.

Whatever these objects mention matters as well, so that no other id is looked up.
-/
theorem alike_of_agree : Alike kept before after := by
  -- Parents and boxes are entries of dictionaries that both documents have.
  have dictionaries : ∀ id, kept id →
      (after.dictionary id).toOption = (before.dictionary id).toOption := by
    intro id holds
    rw [toOption_dictionary, toOption_dictionary, agree id holds]
  refine ⟨?_, ?_, ?_⟩
  · intro id holds
    rw [parent?, parent?, dictionaries id holds]
  · -- A parent is mentioned by its node.
    intro id parent holds named
    obtain ⟨node, found, entry⟩ := exists_entry_of_parent? named
    exact closed id _ holds (object_of_dictionary found) parent
      (Object.mem_references_of_get? entry List.mem_cons_self)
  · intro id holds
    have same : after.boxAt? id = before.boxAt? id := by rw [boxAt?, boxAt?, dictionaries id holds]
    rw [same]
    cases entry : before.boxAt? id with
    | none => exact .none
    | some box =>
      obtain ⟨node, found, there⟩ := exists_entry_of_boxAt? entry
      have corners := boxCorners?_of_agree agree closed fun mentioned among =>
        closed id _ holds (object_of_dictionary found) mentioned
          (Object.mem_references_of_get? there among)
      exact .some fun number => congrArg (sizeFrom number) corners.symm

end Agreement

/-- An object that nothing mentions does not matter to the pages that are there. -/
theorem alike_new (unmentioned : ∀ other object, document.objects.get? other = some object →
    holder ∉ object.references) : Alike (· ≠ holder) document (document.put holder held) := by
  -- No chain of references leads to an id that nothing mentions.
  refine alike_of_agree ?_ ?_
  · intro id apart
    rw [object, resolve, follow_put_new unmentioned _ apart]
    rfl
  · rintro id object _ found _ inside rfl
    obtain ⟨stored, stands⟩ := get?_of_object found
    exact unmentioned stored object stands inside

/-- Holding an object in another place as well leaves pages as they are measured. -/
theorem alike_held (present : document.objects.get? stored = some old)
    (oldEnds : ∀ next, old ≠ .reference next) (apart : holder ≠ stored)
    (there : document.objects.get? holder = some old)
    (spare : ∀ id, document.place? id = some stored →
      document.follow (referenceLimit - 1) id = .ok (stored, old)) :
    Alike (fun _ => True) document (document.put stored (.reference holder)) :=
  -- Every look-up finds what it found, only one link later.
  alike_of_agree (fun id _ => toOption_object_put_reference present oldEnds apart there spare id)
    fun _ _ _ _ _ _ => trivial

/-! ### Boxes that say the same -/

/-- Replacing something that is no number by something else that is none changes no coordinate. -/
theorem coordinate?_put (new : Object) (present : document.objects.get? stored = some old)
    (oldEnds : ∀ next, old ≠ .reference next) (newEnds : ∀ next, new ≠ .reference next)
    (oldOther : old.number? = none) (newOther : new.number? = none) :
    (document.put stored new).coordinate? = document.coordinate? := by
  funext item
  unfold coordinate?
  -- An item leads to what it led to, or to the old thing before and to the new one now.
  rcases value_put_cases new present oldEnds newEnds item with same | ⟨before, after⟩
  · rw [same]
  · rw [before, after]
    exact newOther.trans oldOther.symm

/-- A box stands for itself, if it gives the same size in both documents. -/
theorem rel_sameSize_refl (box? : Option Object)
    (same : ∀ box, SameSize (before.boxCorners? box) (after.boxCorners? box)) :
    Option.Rel (fun old new => SameSize (before.boxCorners? old) (after.boxCorners? new)) box? box? := by
  -- Either there is a box or there is none.
  cases box? with
  | none => exact .none
  | some box => exact .some (same box)

section Replaced

variable (changed) (present : document.objects.get? stored = some (.dictionary node))

include present

/-- A node that keeps the entry for its parent has the parent that it had, and so has every other node. -/
theorem parent?_put (same : changed.get? (ascii "Parent") = node.get? (ascii "Parent"))
    (id : ObjectId) : (document.put stored (.dictionary changed)).parent? id = document.parent? id := by
  -- Only the dictionary in the place has changed, and not in the entry that names the parent.
  rw [parent?, parent?, dictionary_put changed present]
  split
  · rename_i here
    rw [dictionary_of_place? present here]
    simp only [Except.toOption, Option.bind_eq_bind, Option.bind_some, same]
  · rfl

/-- The box of a node is that of the new dictionary where the node leads to it. -/
theorem boxAt?_put (id : ObjectId) : (document.put stored (.dictionary changed)).boxAt? id =
    if document.place? id = some stored then changed.get? PageBox.media.key
    else document.boxAt? id := by
  -- A node has the changed dictionary or the one it had.
  rw [boxAt?, boxAt?, dictionary_put changed present]
  split
  · rfl
  · rfl

/-- A dictionary has no items, whichever it is. -/
theorem items?_value_put (box : Object) :
    ((document.put stored (.dictionary changed)).value box).toOption.bind Object.items? =
      (document.value box).toOption.bind Object.items? := by
  -- A value that is no longer the same is a dictionary before and after, and a dictionary has no items.
  rcases value_put_cases (.dictionary changed) present nofun nofun box with same | ⟨before, after⟩
  · rw [same]
  · rw [before, after]
    rfl

/-- A dictionary is no number either. -/
theorem coordinate?_put_dictionary :
    (document.put stored (.dictionary changed)).coordinate? = document.coordinate? :=
  -- A dictionary stands for no number, before and after.
  coordinate?_put (.dictionary changed) present nofun nofun rfl rfl

/-- Changing a dictionary leaves the corners of every box as they were. -/
theorem boxCorners?_put (box : Object) :
    (document.put stored (.dictionary changed)).boxCorners? box = document.boxCorners? box := by
  -- Neither the items of a box nor the numbers in them are dictionaries.
  rw [boxCorners?_eq, boxCorners?_eq, items?_value_put changed present,
    coordinate?_put_dictionary changed present]

/-- Replacing a dictionary by one with the same parent and a box that says the same leaves pages as they are measured. -/
theorem alike_dictionary (parent : changed.get? (ascii "Parent") = node.get? (ascii "Parent"))
    (box : Option.Rel (fun old new => SameSize (document.boxCorners? old) (document.boxCorners? new))
      (node.get? PageBox.media.key) (changed.get? PageBox.media.key)) :
    Alike (fun _ => True) document (document.put stored (.dictionary changed)) := by
  refine ⟨fun id _ => parent?_put changed present parent id, fun _ _ _ _ => trivial, ?_⟩
  intro id _
  simp only [boxAt?_put changed present, boxCorners?_put changed present]
  -- A node leads to the dictionary that has been replaced, or to what it led to.
  split
  · rename_i here
    rw [boxAt?_eq (dictionary_of_place? present here)]
    exact box
  · exact rel_sameSize_refl _ fun box => .refl _

end Replaced

/-- Replacing the media box of a node by one that says the same leaves pages as they are measured. -/
theorem alike_entry (present : document.objects.get? stored = some (.dictionary node))
    (entry : node.get? PageBox.media.key = some old)
    (replaced : changed.get? PageBox.media.key = some new)
    (rest : ∀ key ≠ PageBox.media.key, changed.get? key = node.get? key)
    (same : SameSize (document.boxCorners? old) (document.boxCorners? new)) :
    Alike (fun _ => True) document (document.put stored (.dictionary changed)) := by
  -- The media box is the one entry that differs, and its two values give the same size.
  refine alike_dictionary changed present (rest _ (by decide)) ?_
  rw [entry, replaced]
  exact .some same

/-- Replacing a stored array by one that says the same as a media box does so as well. -/
theorem alike_array (present : document.objects.get? stored = some (.array items))
    (same : SameSize (document.boxCorners? (.array items)) (document.boxCorners? (.array others))) :
    Alike (fun _ => True) document (document.put stored (.array others)) := by
  have nodes : ∀ id, ((document.put stored (.array others)).dictionary id).toOption =
      (document.dictionary id).toOption := by
    intro id
    rw [toOption_dictionary, toOption_dictionary]
    -- An array is no dictionary, whichever it is.
    rcases object_put_cases (.array others) present nofun nofun id with same | ⟨before, after⟩
    · rw [same]
    · rw [before, after]
      rfl
  refine ⟨?_, fun _ _ _ _ => trivial, ?_⟩
  · intro id _
    rw [parent?, parent?, nodes]
  · intro id _
    have unchanged : (document.put stored (.array others)).boxAt? id = document.boxAt? id := by
      rw [boxAt?, boxAt?, nodes]
    rw [unchanged]
    refine rel_sameSize_refl _ fun box number => ?_
    rw [boxCorners?_eq, boxCorners?_eq, coordinate?_put (.array others) present nofun nofun rfl rfl]
    rcases value_put_cases (.array others) present nofun nofun box with same | ⟨before, after⟩
    · rw [same]
    · rw [before, after]
      exact same number

/-! ### Ways of restating a box -/

/-- What can stand in the place of a media box without a difference to the pages that have it. -/
inductive Restates (document : Document) : (box new : Object) → Prop where
  /-- A reference to an object that holds the array. -/
  | array {box : Object} {holder : ObjectId} {items : List Object}
    (read : document.value box = .ok (.array items))
    (held : document.object holder = .ok (.array items)) :
    Restates document box (.reference holder)
  /-- The array with a reference to an object that holds what one of the items is. -/
  | item {before after : List Object} {item found : Object} {holder : ObjectId}
    (read : document.value item = .ok found) (held : document.object holder = .ok found) :
    Restates document (.array (before ++ item :: after)) (.array (before ++ .reference holder :: after))
  /-- The array that names the two corners the other way round. -/
  | corners {x1 y1 x2 y2 : Object} :
    Restates document (.array [x1, y1, x2, y2]) (.array [x2, y2, x1, y1])
  /-- The array that names the other two corners. -/
  | diagonal {x1 y1 x2 y2 : Object} :
    Restates document (.array [x1, y1, x2, y2]) (.array [x1, y2, x2, y1])

/-- The corners of an array in place are the numbers among its items. -/
theorem boxCorners?_array (items : List Object) :
    document.boxCorners? (.array items) = items.mapM document.coordinate? := rfl

/-- The size between two corners does not depend on which of them is named first. -/
theorem sizeBetween_corners (x1 y1 x2 y2 : Single) :
    sizeBetween x2 y2 x1 y1 = sizeBetween x1 y1 x2 y2 :=
  -- A side is the distance of two coordinates, whichever comes first.
  congrArg₂ PageSize.mk (Binary.abs_sub_comm x1 x2) (Binary.abs_sub_comm y1 y2)

/-- The size between the other two corners is the same. -/
theorem sizeBetween_diagonal (x1 y1 x2 y2 : Single) :
    sizeBetween x1 y2 x2 y1 = sizeBetween x1 y1 x2 y2 :=
  -- Only the second coordinates are exchanged.
  congrArg₂ PageSize.mk rfl (Binary.abs_sub_comm y1 y2)

/-- A box and what can stand in its place give a page the same size. -/
theorem Restates.sameSize (restates : document.Restates old new) :
    SameSize (document.boxCorners? old) (document.boxCorners? new) := by
  -- An indirection is read through, and exchanged corners span the same rectangle; a coordinate that is
  -- missing is missing either way.
  intro number
  cases restates with
  | array read held =>
    rw [boxCorners?_eq, boxCorners?_eq, read, value, held]
  | @item before after item found holder read held =>
    have same : document.coordinate? (.reference holder) = document.coordinate? item := by
      rw [coordinate?, coordinate?, value, held, read]
    rw [boxCorners?_array, boxCorners?_array, List.mapM_append, List.mapM_append, List.mapM_cons,
      List.mapM_cons, same]
  | @corners x1 y1 x2 y2 =>
    simp only [boxCorners?_array, List.mapM_cons, List.mapM_nil]
    cases document.coordinate? x1 <;> cases document.coordinate? y1 <;>
      cases document.coordinate? x2 <;> cases document.coordinate? y2 <;>
      simp [sizeFrom, sizeBetween_corners]
  | @diagonal x1 y1 x2 y2 =>
    simp only [boxCorners?_array, List.mapM_cons, List.mapM_nil]
    cases document.coordinate? x1 <;> cases document.coordinate? y1 <;>
      cases document.coordinate? x2 <;> cases document.coordinate? y2 <;>
      simp [sizeFrom, sizeBetween_diagonal]

/-- One change to a document by which the media boxes in it say the same as before. -/
inductive Restated (id : ObjectId) : (before after : Document) → Prop where
  /-- An object is stored under an id that nothing mentions and that is not the id of the page. -/
  | added {document : Document} {holder : ObjectId} {held : Object}
    (unmentioned : ∀ other object, document.objects.get? other = some object →
      holder ∉ object.references) (apart : id ≠ holder) :
    Restated id document (document.put holder held)
  /-- The media box of a node is restated where the node is stored. -/
  | entry {document : Document} {stored : ObjectId} {node changed : Dictionary} {old new : Object}
    (present : document.objects.get? stored = some (.dictionary node))
    (entry : node.get? PageBox.media.key = some old)
    (replaced : changed.get? PageBox.media.key = some new)
    (rest : ∀ key ≠ PageBox.media.key, changed.get? key = node.get? key)
    (restates : document.Restates old new) :
    Restated id document (document.put stored (.dictionary changed))
  /-- An array is restated as a media box where it is stored. -/
  | array {document : Document} {stored : ObjectId} {items others : List Object}
    (present : document.objects.get? stored = some (.array items))
    (restates : document.Restates (.array items) (.array others)) :
    Restated id document (document.put stored (.array others))
  /-- An object is replaced where it is stored by a reference to another place that holds it, if every
  chain of references that ends at it has a link to spare. -/
  | moved {document : Document} {stored holder : ObjectId} {object : Object}
    (present : document.objects.get? stored = some object)
    (ends : ∀ next, object ≠ .reference next) (apart : holder ≠ stored)
    (there : document.objects.get? holder = some object)
    (spare : ∀ id, document.place? id = some stored →
      document.follow (referenceLimit - 1) id = .ok (stored, object)) :
    Restated id document (document.put stored (.reference holder))

/-- One change by which the boxes say the same leaves the size of the page as it is. -/
theorem Restated.pageSize_eq (restated : Restated id before after) (number : Nat) :
    after.pageSize number id = before.pageSize number id := by
  -- Each way of changing the document makes it alike for the page.
  cases restated with
  | added unmentioned apart => exact (alike_new unmentioned).pageSize_eq apart
  | entry present entry replaced rest restates =>
    exact (alike_entry present entry replaced rest restates.sameSize).pageSize_eq trivial
  | array present restates => exact (alike_array present restates.sameSize).pageSize_eq trivial
  | moved present ends apart there spare =>
    exact (alike_held present ends apart there spare).pageSize_eq trivial

/-- Any number of restatements leaves the size of a page as it was. -/
theorem pageSize_eq_of_restated (restated : Relation.ReflTransGen (Restated id) document later)
    (number : Nat) : later.pageSize number id = document.pageSize number id := by
  -- One change after another.
  induction restated with
  | refl => rfl
  | tail _ step ih => rw [step.pageSize_eq, ih]

/-- A page has the size of the nearest media box on the way up from it, in whichever form this is written.

Only the first media box within 32 nodes counts, and only if it reads as four coordinates.
-/
theorem pageSize_nearest (document : Document) (number : Nat) (id : ObjectId) :
    (∀ box x1 y1 x2 y2, document.NearestBox 32 id box → document.BoxReads box [x1, y1, x2, y2] →
      document.pageSize number id =
        let size : PageSize := ⟨(x2 - x1).abs, (y2 - y1).abs⟩
        if size.width.isFinite ∧ size.height.isFinite ∧ 0 < size.width ∧ 0 < size.height then .ok size
        else .error (.invalidGeometry number size)) ∧
    ((¬ ∃ box x1 y1 x2 y2, document.NearestBox 32 id box ∧ document.BoxReads box [x1, y1, x2, y2]) →
      document.pageSize number id = .error (.missingMediaBox number)) ∧
    ∀ later, Relation.ReflTransGen (Restated id) document later →
      later.pageSize number id = document.pageSize number id := by
  -- The first two parts are the two ends of the search, the third an induction on the restatements.
  refine ⟨?_, ?_, fun later restated => pageSize_eq_of_restated restated number⟩
  · intro box x1 y1 x2 y2 nearest reads
    rw [pageSize_of_nearestBox nearest reads]
    simp only [PageSize.isUsable, Bool.and_eq_true, decide_eq_true_eq, and_assoc]
    rfl
  · intro none
    refine pageSize_of_no_nearestBox fun box x1 y1 x2 y2 nearest reads => ?_
    exact none ⟨box, x1, y1, x2, y2, nearest, reads⟩

/-- A node of a page tree with a media box for the pages under it. -/
def boxedNode (box : Object) : Dictionary :=
  [(ascii "Kids", .array [.reference ⟨3, 0⟩]), (PageBox.media.key, box)]

/-- A page that has its media box from the node above it, beside a number that the box can refer to. -/
def inheritedBox (box : Object) : Document where
  objects := Store.ofEntries [(⟨1, 0⟩, .dictionary [(ascii "Pages", .reference ⟨2, 0⟩)]),
    (⟨2, 0⟩, .dictionary (boxedNode box)),
    (⟨3, 0⟩, .dictionary [(ascii "Type", .name (ascii "Page")), (ascii "Parent", .reference ⟨2, 0⟩)]),
    (⟨4, 0⟩, .integer 500)]
  trailer := [(ascii "Root", .reference ⟨1, 0⟩)]
  maxId := 4

/-- The nearest box of the page is the one at its parent. -/
theorem inheritedBox_nearestBox (box : Object) : (inheritedBox box).NearestBox 32 ⟨3, 0⟩ box := by
  -- The page itself has none, and it is the only node below.
  refine ⟨1, by decide, ⟨⟨2, 0⟩, boxedNode box, rfl, rfl, rfl⟩, fun earlier before => ?_⟩
  obtain rfl : earlier = 0 := by omega
  exact ⟨⟨3, 0⟩, _, rfl, rfl, rfl⟩

/-- Restating the box at the parent restates the box of the page. -/
theorem inheritedBox_restated {old new : Object} (restates : (inheritedBox old).Restates old new) :
    Restated ⟨3, 0⟩ (inheritedBox old) (inheritedBox new) := by
  -- The entry of the parent is replaced, and no other key of it is touched.
  have replaced : Restated ⟨3, 0⟩ (inheritedBox old)
      ((inheritedBox old).put ⟨2, 0⟩ (.dictionary (boxedNode new))) := by
    refine .entry rfl rfl rfl (fun key apart => ?_) restates
    simp [boxedNode, Dictionary.get?, List.lookup_cons, beq_false_of_ne apart]
  exact replaced

/-- A media box that names its lower corner first. -/
def plainBox : Object := .array [.integer 0, .integer 0, .integer 500, .integer 600]

/-- The same media box with its upper corner first, and with one coordinate by reference. -/
def indirectBox : Object := .array [.reference ⟨4, 0⟩, .integer 600, .integer 0, .integer 0]

/-- An inherited box is measured, through two restatements and when it is missing. -/
theorem inheritedBox_pageSize_nearest :
    (inheritedBox plainBox).NearestBox 32 ⟨3, 0⟩ plainBox ∧
      (inheritedBox plainBox).pageSize 1 ⟨3, 0⟩ = .ok ⟨500, 600⟩ ∧
      Relation.ReflTransGen (Restated ⟨3, 0⟩) (inheritedBox plainBox) (inheritedBox indirectBox) ∧
      (inheritedBox indirectBox).pageSize 1 ⟨3, 0⟩ = .ok ⟨500, 600⟩ ∧
      (inheritedBox .null).pageSize 1 ⟨3, 0⟩ = .error (.missingMediaBox 1) := by
  obtain ⟨sized, _, keeps⟩ := pageSize_nearest (inheritedBox plainBox) 1 ⟨3, 0⟩
  obtain ⟨_, missing, _⟩ := pageSize_nearest (inheritedBox .null) 1 ⟨3, 0⟩
  have nearest := inheritedBox_nearestBox plainBox
  have reads : (inheritedBox plainBox).BoxReads plainBox [.ofInt 0, .ofInt 0, .ofInt 500, .ofInt 600] :=
    ⟨_, rfl, .cons (.integer rfl) (.cons (.integer rfl) (.cons (.integer rfl)
      (.cons (.integer rfl) .nil)))⟩
  have measured : (inheritedBox plainBox).pageSize 1 ⟨3, 0⟩ = .ok ⟨500, 600⟩ := by
    rw [sized _ _ _ _ _ nearest reads]
    decide +kernel
  -- One coordinate becomes a reference, and then the corners are exchanged.
  have byReference : (inheritedBox plainBox).Restates plainBox
      (.array [.integer 0, .integer 0, .reference ⟨4, 0⟩, .integer 600]) := by
    have item : (inheritedBox plainBox).Restates
        (.array ([.integer 0, .integer 0] ++ .integer 500 :: [.integer 600]))
        (.array ([.integer 0, .integer 0] ++ .reference ⟨4, 0⟩ :: [.integer 600])) := .item rfl rfl
    exact item
  have restated : Relation.ReflTransGen (Restated ⟨3, 0⟩) (inheritedBox plainBox)
      (inheritedBox indirectBox) :=
    .tail (.single (inheritedBox_restated byReference)) (inheritedBox_restated .corners)
  refine ⟨nearest, measured, restated, (keeps _ restated).trans measured, missing ?_⟩
  -- The null object is the nearest media box, and it is no array.
  rintro ⟨box, _, _, _, _, other, items, array, _⟩
  cases other.unique (inheritedBox_nearestBox .null)
  cases array

end PdfResize.Document
