import Mathlib.Data.List.Perm.Subperm
import PdfResize.Proofs.Document.Framing
import PdfResize.Proofs.Document.Inheriting

/-! The walk through the page tree: when it comes to its end, and that it finds the same pages in a later state. -/

namespace PdfResize

/-- The ids that hold objects are all different. -/
theorem Store.nodup_ids (store : Store) : (store.entries.map Prod.fst).Nodup := by
  -- Each of them comes before the next one, and none before itself.
  rw [List.nodup_iff_pairwise_ne, List.pairwise_map]
  refine store.ordered.imp ?_
  intro left right before same
  exact ObjectId.lt_irrefl right.1 (same ▸ before)

/-- A store in which something is found is not empty. -/
theorem Store.size_pos {store : Store} {id : ObjectId} {object : Object}
    (found : store.get? id = some object) : 0 < store.size := by
  -- The id that was found is counted.
  have among := mem_ids_iff.2 (Option.isSome_of_eq_some found)
  have counted := List.length_pos_of_mem among
  rwa [List.length_map] at counted

/-- A store with an object under each id of another one is at least as large. -/
theorem Store.size_le {first second : Store}
    (included : ∀ id, (first.get? id).isSome → (second.get? id).isSome) : first.size ≤ second.size := by
  -- The ids of the one are among those of the other.
  have ids : first.entries.map Prod.fst ⊆ second.entries.map Prod.fst :=
    fun id member => mem_ids_iff.2 (included id (mem_ids_iff.1 member))
  have counted := (first.nodup_ids.subperm ids).length_le
  rwa [List.length_map, List.length_map] at counted

namespace Document

/-- The keys of the entries that the walk through the page tree reads. -/
def treeKeys : List Bytes := [ascii "Pages", ascii "Kids", ascii "Type", ascii "Linearized"]

/-- A walk from here comes to its end within a budget: when the budget is used up, no kid is left. -/
def endsWithin (document : Document) :
    (budget : Nat) → (current : List Object) → (unfinished : List (List Object)) → Bool
  | 0, current, unfinished => (nextKid current unfinished).isNone
  | budget + 1, current, unfinished =>
    match nextKid current unfinished with
    | none => true
    | some (kid, rest, outer) =>
      match document.classifyKid kid with
      | .node id =>
        if outer.length < levelLimit then
          document.endsWithin budget (document.kids id) (if rest.isEmpty then outer else rest :: outer)
        else document.endsWithin budget rest outer
      | .page _ | .other => document.endsWithin budget rest outer

/-- The walk through the page tree comes to its end by itself, so that its budget does not cut it short. -/
def walkEnds (document : Document) : Bool :=
  match document.pageTreeRoot? with
  | some top => document.endsWithin document.objects.size (document.kids top) []
  | none => true

variable {document before after : Document} {keys : List Bytes} {places : ObjectId → Prop} {count : Nat}
  {id stored : ObjectId}

/-! ### One kid after another -/

/-- The pages that a kid counts as by itself, which is one at the most. -/
def pagesAt (document : Document) (kid : Object) : List ObjectId :=
  match document.classifyKid kid with
  | .page id => [id]
  | .node _ | .other => []

/-- What the walk goes on with behind a kid: the kids of the kid, or else what is left beside it. -/
def behind (document : Document) (kid : Object) (rest : List Object) (outer : List (List Object)) :
    List Object × List (List Object) :=
  match document.classifyKid kid with
  | .node id =>
    if outer.length < levelLimit then
      (document.kids id, if rest.isEmpty then outer else rest :: outer)
    else (rest, outer)
  | .page _ | .other => (rest, outer)

section step

variable {budget : Nat} {current rest : List Object} {unfinished outer : List (List Object)} {kid : Object}

/-- A walk that has no next kid lists nothing. -/
theorem walk_of_none (nothing : nextKid current unfinished = none) :
    document.walk budget current unfinished = [] := by
  -- Whether or not any budget is left, there is nothing to spend it on.
  cases budget with
  | zero => rfl
  | succ budget => simp only [walk, nothing]

/-- A walk looks at the next kid and goes on behind it. -/
theorem walk_succ (next : nextKid current unfinished = some (kid, rest, outer)) :
    document.walk (budget + 1) current unfinished = document.pagesAt kid ++
      document.walk budget (document.behind kid rest outer).1 (document.behind kid rest outer).2 := by
  -- A step is the same for every kind of kid, but for what it lists and how it goes on.
  simp only [walk, next, pagesAt, behind]
  cases document.classifyKid kid with
  | page id => rfl
  | node id =>
    simp only
    split
    · rfl
    · rfl
  | other => rfl

/-- A walk with a next kid ends when the walk behind that kid does, with one step less. -/
theorem endsWithin_succ (next : nextKid current unfinished = some (kid, rest, outer)) :
    document.endsWithin (budget + 1) current unfinished = document.endsWithin budget
      (document.behind kid rest outer).1 (document.behind kid rest outer).2 := by
  -- A step goes on as the walk itself does.
  simp only [endsWithin, next, behind]
  cases document.classifyKid kid with
  | page id => rfl
  | node id =>
    simp only
    split
    · rfl
    · rfl
  | other => rfl

/-- A walk that ends within a budget finds the same with any larger one. -/
theorem walk_of_endsWithin {larger : Nat} (ends : document.endsWithin budget current unfinished)
    (enough : budget ≤ larger) :
    document.walk larger current unfinished = document.walk budget current unfinished := by
  -- Both walks look at the same kids one after another, and there is none left for the larger budget.
  induction budget generalizing larger current unfinished with
  | zero => rw [walk_of_none (Option.isNone_iff_eq_none.1 ends), walk]
  | succ budget ih =>
    cases next : nextKid current unfinished with
    | none => rw [walk_of_none next, walk_of_none next]
    | some step =>
      obtain ⟨larger, rfl⟩ : ∃ more, larger = more + 1 := ⟨larger - 1, by omega⟩
      rw [endsWithin_succ next] at ends
      rw [walk_succ next, walk_succ next, ih ends (Nat.le_of_succ_le_succ enough)]

/-- What a walk finds counts as a page by itself. -/
theorem exists_kid_of_mem_walk (member : id ∈ document.walk budget current unfinished) :
    ∃ kid, id ∈ document.pagesAt kid := by
  -- By induction on the budget: a page is listed by this step or by a later one.
  induction budget generalizing current unfinished with
  | zero => cases member
  | succ budget ih =>
    cases next : nextKid current unfinished with
    | none =>
      rw [walk_of_none next] at member
      cases member
    | some step =>
      obtain ⟨kid, rest, outer⟩ := step
      rw [walk_succ next, List.mem_append] at member
      rcases member with here | later
      · exact ⟨kid, here⟩
      · exact ih later

end step

/-- The pages are the ids that the walk finds, each under its number. -/
theorem mem_pageIds_iff : id ∈ document.pageIds ↔ ∃ page ∈ document.pages, page.id = id := by
  -- The pages are the ids with their numbers.
  have ids : document.pages.map (·.id) = document.pageIds := by
    unfold pages
    refine List.ext_getElem (by simp) ?_
    intro index _ _
    simp
  rw [← ids, List.mem_map]

/-- What counts as a page of the document does so wherever a reference to it stands. -/
theorem classifyKid_of_mem_pageIds (listed : id ∈ document.pageIds) :
    document.classifyKid (.reference id) = .page id := by
  unfold pageIds at listed
  cases root : document.pageTreeRoot? with
  | none =>
    rw [root] at listed
    cases listed
  | some top =>
    rw [root] at listed
    obtain ⟨kid, counts⟩ := exists_kid_of_mem_walk listed
    -- Only a reference counts, and it counts under its own id.
    unfold pagesAt classifyKid at counts
    unfold classifyKid
    grind

/-- A page is a reference to a dictionary. -/
theorem exists_dictionary_of_mem_pageIds (listed : id ∈ document.pageIds) :
    ∃ page, document.dictionary id = .ok page := by
  -- A kid counts as a page only by the type that its dictionary names.
  have kind := classifyKid_of_mem_pageIds listed
  unfold classifyKid at kind
  grind

/-- A walk depends on the document only through the kids of nodes and the kinds of kids. -/
theorem walk_congr (kids : ∀ id, after.kids id = before.kids id)
    (kinds : ∀ kid, after.classifyKid kid = before.classifyKid kid) (budget : Nat)
    (current : List Object) (unfinished : List (List Object)) :
    after.walk budget current unfinished = before.walk budget current unfinished := by
  -- By induction on the budget, since each step asks only for kids and kinds.
  induction budget generalizing current unfinished with
  | zero => rfl
  | succ budget ih => simp only [walk, kids, kinds, ih]

/-! ### What the pages are read from -/

/-- Following references reads nothing but the objects. -/
theorem follow_of_objects (same : after.objects = before.objects) (links : Nat) (id : ObjectId) :
    after.follow links id = before.follow links id := by
  -- Each step of the chain looks an id up, and the rest of it is shorter.
  induction links generalizing id with
  | zero => rw [follow, follow, same]
  | succ links ih =>
    rw [follow, follow, same]
    simp only [ih]

/-- Documents with the same objects have the same dictionaries. -/
theorem dictionary_of_objects (same : after.objects = before.objects) (id : ObjectId) :
    after.dictionary id = before.dictionary id := by
  -- The look-up follows references through the store and reads nothing else.
  simp only [dictionary, object, resolve, follow_of_objects same]

/-- The pages are read from the objects and from the root that the trailer names, and from nothing else. -/
theorem pages_of_objects (same : after.objects = before.objects)
    (root : after.trailer.get? (ascii "Root") = before.trailer.get? (ascii "Root")) :
    after.pages = before.pages := by
  have found := dictionary_of_objects same
  have kids (id : ObjectId) : after.kids id = before.kids id := by
    simp only [Document.kids, found]
  have kinds (kid : Object) : after.classifyKid kid = before.classifyKid kid := by
    simp only [classifyKid, found]
  have top : after.pageTreeRoot? = before.pageTreeRoot? := by
    simp only [pageTreeRoot?, root, found]
  -- Both walks begin at one node, with one budget.
  simp only [pages, pageIds, top, same, kids, walk_congr kids kinds]

namespace Frame

/-- Of what has been added nothing is a reference or a dictionary. -/
theorem inherits (frame : Frame keys places count before after) :
    Inherits keys places before after := by
  -- Every object of the later document is in a place, under a new number, or as it was.
  refine ⟨frame.trailer, ?_, ?_⟩
  · -- A place has a dictionary, and a new id has a stream.
    intro id next found
    by_cases inside : places id
    · obtain ⟨_, _, _, there, _⟩ := frame.dictionaries inside
      rw [found] at there
      cases there
    · by_cases upcoming : before.IsUpcoming count id
      · obtain ⟨_, _, _, there⟩ := frame.streams upcoming
        rw [found] at there
        cases there
      · rw [← frame.others inside upcoming, found]
  · intro id later found
    by_cases inside : places id
    · obtain ⟨old, new, present, there, same⟩ := frame.dictionaries inside
      rw [found] at there
      cases there
      exact ⟨old, present, fun key => same key, fun apart => absurd inside apart⟩
    · by_cases upcoming : before.IsUpcoming count id
      · obtain ⟨_, _, _, there⟩ := frame.streams upcoming
        rw [found] at there
        cases there
      · exact ⟨later, by rw [← frame.others inside upcoming, found], fun _ _ => rfl, fun _ => rfl⟩

/-- An id leads to a dictionary in both states, with the old entries under all other keys, or in neither. -/
theorem dictionary_cases (frame : Frame keys places count before after) (id : ObjectId) :
    (∃ old new, before.dictionary id = .ok old ∧ after.dictionary id = .ok new ∧
      ∀ key, key ∉ keys → Dictionary.get? new key = Dictionary.get? old key) ∨
    ∃ first second, before.dictionary id = .error first ∧ after.dictionary id = .error second := by
  cases found : before.dictionary id with
  | ok old =>
    obtain ⟨stored, resolved⟩ := exists_resolve_of_dictionary found
    obtain ⟨new, there, same⟩ := frame.rewrites.resolve_dictionary resolved
    exact .inl ⟨old, new, rfl, dictionary_of_resolve there, same⟩
  | error first =>
    cases there : after.dictionary id with
    | error second => exact .inr ⟨first, second, rfl, rfl⟩
    | ok new =>
      -- What is found afterwards was found before.
      obtain ⟨old, present, _⟩ := frame.inherits.dictionary there
      rw [present] at found
      cases found

/-- No object is lost, so there are at least as many as before. -/
theorem size_le (frame : Frame keys places count before after) :
    before.objects.size ≤ after.objects.size := by
  -- Nothing that was there is gone.
  refine Store.size_le ?_
  intro id present
  obtain ⟨object, found⟩ := Option.isSome_iff_exists.1 present
  obtain ⟨later, there, _⟩ := frame.rewrites.rewritten found
  rw [there]
  rfl

/-- Where no streams have been added there are as many objects as before. -/
theorem size_eq (frame : Frame keys places 0 before after) :
    after.objects.size = before.objects.size := by
  -- Nothing is there that was not, since only places were written.
  refine Nat.le_antisymm (Store.size_le ?_) frame.size_le
  intro id present
  by_cases inside : places id
  · obtain ⟨old, _, found, _⟩ := frame.dictionaries inside
    rw [found]
    rfl
  · -- No number has been given out.
    have apart : ¬ before.IsUpcoming 0 id := by
      rintro ⟨_, above, within⟩
      omega
    rwa [frame.others inside apart] at present

section tree

variable (frame : Frame keys places count before after)

include frame

/-- Unless kids are among the changed keys, every node keeps its kids. -/
theorem kids_eq (apart : ascii "Kids" ∉ keys) (id : ObjectId) : after.kids id = before.kids id := by
  -- Either the node has a dictionary in both documents, or in neither.
  unfold kids
  rcases frame.dictionary_cases id with ⟨old, new, found, there, same⟩ | ⟨_, _, failed, again⟩
  · simp only [found, there, same _ apart]
  · simp only [failed, again]

/-- Unless types are among the changed keys, every kid keeps its kind. -/
theorem classifyKid_eq (typed : ascii "Type" ∉ keys) (linearized : ascii "Linearized" ∉ keys)
    (kid : Object) : after.classifyKid kid = before.classifyKid kid := by
  -- Only a reference is looked up at all.
  unfold classifyKid
  split
  · rename_i id
    rcases frame.dictionary_cases id with ⟨old, new, found, there, same⟩ | ⟨_, _, failed, again⟩
    · -- The name of a type is read off two entries.
      have name : new.typeName? = old.typeName? := by
        simp only [Dictionary.typeName?, same _ typed, same _ linearized]
      simp only [found, there, name]
    · simp only [failed, again]
  · rfl

/-- Unless the root of the tree is among the changed keys, it stays the root. -/
theorem pageTreeRoot?_eq (apart : ascii "Pages" ∉ keys) :
    after.pageTreeRoot? = before.pageTreeRoot? := by
  -- The root is named by the trailer and one dictionary.
  unfold pageTreeRoot?
  rw [frame.trailer]
  split
  · rename_i root _
    rcases frame.dictionary_cases root with ⟨old, new, found, there, same⟩ | ⟨_, _, failed, again⟩
    · simp only [found, there, Except.toOption, same _ apart, bind, Option.bind]
    · simp only [failed, again, Except.toOption, bind, Option.bind]
  · rfl

/--
The pages are the same in a later state.

Where streams have been added, the walk has a larger budget. Then it has to come to its end within the old one.
-/
theorem pages_eq (apart : ∀ key ∈ treeKeys, key ∉ keys) (ends : count ≠ 0 → before.walkEnds) :
    after.pages = before.pages := by
  -- Both walks take the same steps; only a larger store gives one of them more budget, which a walk that
  -- ends does not need.
  have kids := frame.kids_eq (apart (ascii "Kids") (by decide))
  have kinds := frame.classifyKid_eq (apart (ascii "Type") (by decide))
    (apart (ascii "Linearized") (by decide))
  have walked : after.pageIds = before.pageIds := by
    unfold pageIds
    rw [frame.pageTreeRoot?_eq (apart (ascii "Pages") (by decide))]
    cases root : before.pageTreeRoot? with
    | none => rfl
    | some top =>
      simp only [kids, walk_congr kids kinds]
      by_cases grown : count = 0
      · subst grown
        rw [frame.size_eq]
      · have within := ends grown
        simp only [walkEnds, root] at within
        exact walk_of_endsWithin within frame.size_le
  unfold pages
  rw [walked]

end tree

end Frame

end Document

end PdfResize
