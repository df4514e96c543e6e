import PdfResize.Proofs.Document.PageBox

/-! The media box that a page has from its nearest ancestor, and the size that it is measured to have by it. -/

namespace PdfResize.Document

/-! ### The way up from a page -/

/-- The node that a node names as its parent, by a reference in place. -/
def parent? (document : Document) (id : ObjectId) : Option ObjectId := do
  match (← (document.dictionary id).toOption).get? (ascii "Parent") with
  | some (.reference parent) => some parent
  | _ => none

/-- The node that is so many parents up from a node. -/
def ancestor? (document : Document) (id : ObjectId) : (steps : Nat) → Option ObjectId
  | 0 => some id
  | steps + 1 => do document.parent? (← document.ancestor? id steps)

/-- The media box that a node has itself. -/
def boxAt? (document : Document) (id : ObjectId) : Option Object := do
  (← (document.dictionary id).toOption).get? PageBox.media.key

/-- The node that is so many parents up is a dictionary, with this media box or without one. -/
def BoxAbove (document : Document) (id : ObjectId) (steps : Nat) (box? : Option Object) : Prop :=
  ∃ node entries, document.ancestor? id steps = some node ∧ document.dictionary node = .ok entries ∧
    entries.get? PageBox.media.key = box?

/-- The media box of the first node that has one, on the way up from a node over so many nodes in all. -/
def NearestBox (document : Document) (nodes : Nat) (id : ObjectId) (box : Object) : Prop :=
  ∃ steps < nodes, document.BoxAbove id steps (some box) ∧
    ∀ earlier < steps, document.BoxAbove id earlier none

/--
A node with some property is met on the way up from a node, over so many nodes in all.

It is met no later than the first media box: every node before it is a dictionary without one.
-/
def FirstAbove (document : Document) (nodes : Nat) (id : ObjectId) (holds : ObjectId → Prop) : Prop :=
  ∃ steps < nodes, (∃ node, document.ancestor? id steps = some node ∧ holds node) ∧
    ∀ earlier < steps, document.BoxAbove id earlier none

/-- An object is a number, or leads to one, and is read as this coordinate. -/
inductive ReadsAs (document : Document) (item : Object) : Single → Prop where
  /-- A whole number is read as the nearest number that can be a coordinate. -/
  | integer {value : Int} (found : document.value item = .ok (.integer value)) :
    ReadsAs document item (.ofInt value)
  /-- A real number is read as it is. -/
  | real {value : Single} (found : document.value item = .ok (.real value)) :
    ReadsAs document item value

/-- A media box is an array, or leads to one, whose items are read as these coordinates. -/
def BoxReads (document : Document) (box : Object) (corners : List Single) : Prop :=
  ∃ items, document.value box = .ok (.array items) ∧
    List.Forall₂ document.ReadsAs items corners

/-- The coordinates that a media box has, if they can all be read. -/
def boxCorners? (document : Document) (box : Object) : Option (List Single) := do
  (← (← (document.value box).toOption).items?).mapM document.coordinate?

/-- The size that a page has with these coordinates in its media box. -/
def sizeFrom (number : Nat) : (corners? : Option (List Single)) → Except FitError PageSize
  | some [x1, y1, x2, y2] =>
    if (sizeBetween x1 y1 x2 y2).isUsable then .ok (sizeBetween x1 y1 x2 y2)
    else .error (.invalidGeometry number (sizeBetween x1 y1 x2 y2))
  | _ => .error (.missingMediaBox number)

variable {document : Document} {number nodes steps : Nat} {id parent : ObjectId} {box item : Object}
  {node : Dictionary} {items : List Object} {corners : List Single}

/-- The way up from a node goes on as the way up from its parent does. -/
theorem ancestor?_succ (steps : Nat) : document.ancestor? id (steps + 1) =
    (document.parent? id).bind fun parent => document.ancestor? parent steps := by
  -- The definition takes the last step last, so that the first one has to be moved past the others.
  induction steps with
  | zero => cases named : document.parent? id <;> simp [ancestor?, named]
  | succ steps ih =>
    rw [ancestor?, ih]
    cases document.parent? id <;> rfl

/-- The parent of a node is a reference in its entries. -/
theorem exists_entry_of_parent? (named : document.parent? id = some parent) :
    ∃ entries, document.dictionary id = .ok entries ∧
      Dictionary.get? entries (ascii "Parent") = some (.reference parent) := by
  unfold parent? at named
  cases found : document.dictionary id with
  | error cause =>
    rw [found] at named
    cases named
  | ok entries =>
    rw [found] at named
    simp only [Except.toOption, Option.bind_eq_bind, Option.bind_some] at named
    -- Of all objects only a reference names a parent.
    split at named
    · rename_i entry
      cases named
      exact ⟨entries, rfl, entry⟩
    · cases named

/-- The box at a node is an entry of its dictionary. -/
theorem exists_entry_of_boxAt? (entry : document.boxAt? id = some box) :
    ∃ entries, document.dictionary id = .ok entries ∧
      Dictionary.get? entries PageBox.media.key = some box := by
  -- Only a dictionary has a box, so the other case is no case.
  cases found : document.dictionary id with
  | ok entries =>
    rw [boxAt?, found] at entry
    exact ⟨entries, rfl, entry⟩
  | error cause =>
    rw [boxAt?, found] at entry
    cases entry

/-- The box at a node is read off its dictionary. -/
theorem boxAt?_eq (found : document.dictionary id = .ok node) :
    document.boxAt? id = node.get? PageBox.media.key := by
  -- What is read is the entry of the dictionary that was found.
  rw [boxAt?, found]
  rfl

/-- The box no step above a node is the one in its own entries. -/
theorem boxAbove_zero {box? : Option Object} : document.BoxAbove id 0 box? ↔
    ∃ entries, document.dictionary id = .ok entries ∧ Dictionary.get? entries PageBox.media.key = box? := by
  -- No step up leads to the node itself.
  constructor
  · rintro ⟨_, entries, ⟨⟩, found, entry⟩
    exact ⟨entries, found, entry⟩
  · rintro ⟨entries, found, entry⟩
    exact ⟨id, entries, rfl, found, entry⟩

/-- The box no step above a node is the box at it. -/
theorem BoxAbove.boxAt?_eq {box? : Option Object} (above : document.BoxAbove id 0 box?) :
    document.boxAt? id = box? := by
  -- Both read the same dictionary.
  obtain ⟨entries, found, entry⟩ := boxAbove_zero.1 above
  rw [Document.boxAt?_eq found, entry]

/-- A node with entries has the box at it no step above. -/
theorem boxAbove_boxAt? (found : document.dictionary id = .ok node) :
    document.BoxAbove id 0 (document.boxAt? id) :=
  -- The entries are those of the dictionary that was found.
  boxAbove_zero.2 ⟨node, found, (boxAt?_eq found).symm⟩

/-- One step more above a node is that many steps above its parent. -/
theorem boxAbove_succ {box? : Option Object} : document.BoxAbove id (steps + 1) box? ↔
    ∃ parent, document.parent? id = some parent ∧ document.BoxAbove parent steps box? := by
  -- The first step is taken apart from the others, and the two sides only regroup what is left.
  simp only [BoxAbove, ancestor?_succ, Option.bind_eq_some_iff]
  constructor
  · rintro ⟨node, entries, ⟨parent, named, above⟩, found, entry⟩
    exact ⟨parent, named, node, entries, above, found, entry⟩
  · rintro ⟨parent, named, node, entries, above, found, entry⟩
    exact ⟨node, entries, ⟨parent, named, above⟩, found, entry⟩

/-- A node with the property is the node itself, or it is met on the way up from its parent if the node has no box. -/
theorem firstAbove_succ {holds : ObjectId → Prop} : document.FirstAbove (nodes + 1) id holds ↔
    holds id ∨ document.boxAt? id = none ∧
      ∃ parent, document.parent? id = some parent ∧ document.FirstAbove nodes parent holds := by
  constructor
  · rintro ⟨steps, within, ⟨node, above, here⟩, none⟩
    -- What is so many steps above the node itself is one step less above its parent.
    cases steps with
    | zero =>
      cases above
      exact .inl here
    | succ steps =>
      rw [ancestor?_succ, Option.bind_eq_some_iff] at above
      obtain ⟨parent, named, above⟩ := above
      refine .inr ⟨(none 0 (Nat.succ_pos steps)).boxAt?_eq, parent, named, steps, by omega,
        ⟨node, above, here⟩, ?_⟩
      intro earlier before
      obtain ⟨_, again, none⟩ := boxAbove_succ.1 (none (earlier + 1) (by omega))
      cases named.symm.trans again
      exact none
  · rintro (here | ⟨entry, parent, named, steps, within, ⟨node, above, here⟩, none⟩)
    · exact ⟨0, Nat.succ_pos nodes, ⟨id, rfl, here⟩, fun earlier before => by omega⟩
    · obtain ⟨_, found, _⟩ := exists_entry_of_parent? named
      have boxless := boxAbove_boxAt? found
      rw [entry] at boxless
      refine ⟨steps + 1, by omega, ⟨node, ?_, here⟩, fun earlier before => ?_⟩
      · rw [ancestor?_succ, named]
        exact above
      · -- The nodes on the way are the node itself and those on the way from its parent.
        cases earlier with
        | zero => exact boxless
        | succ earlier => exact boxAbove_succ.2 ⟨parent, named, none earlier (by omega)⟩

/-- The nearest box is the first that is met on the way up. -/
theorem nearestBox_iff : document.NearestBox nodes id box ↔
    document.FirstAbove nodes id fun node => document.boxAt? node = some box := by
  -- A box entry and the box at a node are the same thing said twice.
  constructor
  · rintro ⟨steps, within, ⟨node, entries, above, found, entry⟩, none⟩
    exact ⟨steps, within, ⟨node, above, (boxAt?_eq found).trans entry⟩, none⟩
  · rintro ⟨steps, within, ⟨node, above, here⟩, none⟩
    obtain ⟨entries, found, entry⟩ := exists_entry_of_boxAt? here
    exact ⟨steps, within, ⟨node, entries, above, found, entry⟩, none⟩

/-- The nearest media box is that of the node itself, or that of its parent if the node has none. -/
theorem nearestBox_succ : document.NearestBox (nodes + 1) id box ↔ document.boxAt? id = some box ∨
    document.boxAt? id = none ∧
      ∃ parent, document.parent? id = some parent ∧ document.NearestBox nodes parent box := by
  -- Either the node itself has a box, or the search goes on from its parent with one node less.
  simp only [nearestBox_iff, firstAbove_succ]

/-- A page has one nearest media box at most. -/
theorem NearestBox.unique {other : Object} (nearest : document.NearestBox nodes id box)
    (again : document.NearestBox nodes id other) : box = other := by
  -- Both are found at the node itself, or both above the one parent that it has.
  induction nodes generalizing id with
  | zero =>
    obtain ⟨steps, within, _⟩ := nearest
    omega
  | succ nodes ih =>
    rw [nearestBox_succ] at nearest again
    rcases nearest with entry | ⟨entry, parent, named, above⟩
    · rcases again with same | ⟨none, _⟩
      · exact Option.some.inj (entry.symm.trans same)
      · cases entry.symm.trans none
    · rcases again with same | ⟨_, _, same, further⟩
      · cases entry.symm.trans same
      · cases named.symm.trans same
        exact ih above further

/-- What an object leads to is an array, and these are its items. -/
theorem items?_value_eq_some_iff : (document.value box).toOption.bind Object.items? = some items ↔
    document.value box = .ok (.array items) := by
  -- Of all objects only an array has items.
  cases document.value box with
  | error cause => simp [Except.toOption]
  | ok object => cases object <;> simp [Except.toOption, Object.items?]

/-- The search for a media box ends at a node that has one and goes on from its parent otherwise. -/
theorem mediaBox?_succ : document.mediaBox? (nodes + 1) id = match document.boxAt? id with
    | some box => (document.value box).toOption.bind Object.items?
    | none => (document.parent? id).bind fun parent => document.mediaBox? nodes parent := by
  -- The cases are those of the search: no dictionary, a box in it, and a parent of some kind.
  rw [mediaBox?, parent?, boxAt?]
  cases (document.dictionary id).toOption with
  | none => rfl
  | some node =>
    simp only [Option.bind_eq_bind, Option.bind_some]
    cases node.get? PageBox.media.key with
    | some box => rfl
    | none =>
      cases node.get? (ascii "Parent") with
      | some object => cases object <;> rfl
      | none => rfl

/-- The search up from a node finds the items of the nearest media box. -/
theorem mediaBox?_eq_some_iff : document.mediaBox? nodes id = some items ↔
    ∃ box, document.NearestBox nodes id box ∧ document.value box = .ok (.array items) := by
  -- The search and the relation take the same step from a node to its parent.
  induction nodes generalizing id with
  | zero =>
    constructor
    · intro found
      cases found
    · rintro ⟨_, ⟨steps, within, _⟩, _⟩
      omega
  | succ nodes ih =>
    simp only [nearestBox_succ, mediaBox?_succ]
    cases entry : document.boxAt? id with
    | some box =>
      -- The search ends here, and so does the way up.
      simp [items?_value_eq_some_iff]
    | none =>
      simp only [Option.bind_eq_some_iff, ih]
      constructor
      · rintro ⟨parent, named, box, nearest, holds⟩
        exact ⟨box, .inr ⟨trivial, parent, named, nearest⟩, holds⟩
      · rintro ⟨box, ⟨⟨⟩⟩ | ⟨_, parent, named, nearest⟩, holds⟩
        exact ⟨parent, named, box, nearest, holds⟩

/-! ### What is read there -/

/-- A number is read from an object just when the object stands for it. -/
theorem coordinate?_eq_some_iff {number : Single} :
    document.coordinate? item = some number ↔ document.ReadsAs item number := by
  unfold coordinate?
  cases found : document.value item with
  | error cause =>
    constructor
    · intro read
      cases read
    · rintro (there | there) <;> cases found.symm.trans there
  | ok object =>
    constructor
    · intro read
      -- Of all objects only the two kinds of numbers are read.
      cases object with
      | integer value =>
        cases read
        exact .integer found
      | real value =>
        cases read
        exact .real found
      | _ => cases read
    · rintro (there | there) <;> cases found.symm.trans there <;> rfl

/-- A step done on each input succeeds just when it does on every one. -/
theorem mapM_eq_some_iff {Input Output : Type} {step : Input → Option Output} {inputs : List Input}
    {outputs : List Output} : inputs.mapM step = some outputs ↔
      List.Forall₂ (fun input output => step input = some output) inputs outputs := by
  -- By induction on the inputs: the first step succeeds, and so do those of the rest.
  induction inputs generalizing outputs with
  | nil => simp [eq_comm]
  | cons input rest ih =>
    simp only [List.mapM_cons, List.forall₂_cons_left_iff, Option.bind_eq_bind, Option.pure_def,
      Option.bind_eq_some_iff, Option.some.injEq, ih]
    constructor
    · rintro ⟨output, first, later, others, rfl⟩
      exact ⟨output, later, first, others, rfl⟩
    · rintro ⟨output, later, first, others, rfl⟩
      exact ⟨output, first, later, others, rfl⟩

/-- The coordinates of a page are those of its nearest media box. -/
theorem corners?_eq_some_iff : document.corners? id = some corners ↔
    ∃ box, document.NearestBox ancestorLimit id box ∧ document.BoxReads box corners := by
  -- The array that the search gives is the one that the nearest box holds.
  simp only [corners?, Option.bind_eq_bind, Option.bind_eq_some_iff, mediaBox?_eq_some_iff,
    mapM_eq_some_iff, BoxReads, coordinate?_eq_some_iff]
  constructor
  · rintro ⟨items, ⟨box, nearest, holds⟩, reads⟩
    exact ⟨box, nearest, items, holds, reads⟩
  · rintro ⟨box, nearest, items, holds, reads⟩
    exact ⟨items, ⟨box, nearest, holds⟩, reads⟩

/-- A page is measured by its coordinates and by nothing else. -/
theorem pageSize_eq (document : Document) (number : Nat) (id : ObjectId) :
    document.pageSize number id = sizeFrom number (document.corners? id) := rfl

/-- A page has the size of its nearest media box, or an error that names this size. -/
theorem pageSize_of_nearestBox {x1 y1 x2 y2 : Single}
    (nearest : document.NearestBox ancestorLimit id box)
    (reads : document.BoxReads box [x1, y1, x2, y2]) : document.pageSize number id =
      if (sizeBetween x1 y1 x2 y2).isUsable then .ok (sizeBetween x1 y1 x2 y2)
      else .error (.invalidGeometry number (sizeBetween x1 y1 x2 y2)) := by
  -- The four corners are found, and only their rectangle can still be unusable.
  rw [pageSize_eq, corners?_eq_some_iff.2 ⟨box, nearest, reads⟩]
  rfl

/-- A page whose nearest media box is not four coordinates, or is not there, has none that is of use. -/
theorem pageSize_of_no_nearestBox (none : ∀ box x1 y1 x2 y2,
      document.NearestBox ancestorLimit id box → ¬ document.BoxReads box [x1, y1, x2, y2]) :
    document.pageSize number id = .error (.missingMediaBox number) := by
  rw [pageSize_eq]
  unfold sizeFrom
  -- Four coordinates could only have been those of the nearest box.
  split
  · rename_i x1 y1 x2 y2 read
    obtain ⟨box, nearest, reads⟩ := corners?_eq_some_iff.1 read
    exact absurd reads (none box x1 y1 x2 y2 nearest)
  · rfl

end PdfResize.Document
