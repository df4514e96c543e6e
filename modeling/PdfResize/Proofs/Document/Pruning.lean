import PdfResize.Proofs.Document.PageTree

/-! Walks through a page tree that has lost some branches: whatever they find, the walk through the whole tree finds. -/

namespace PdfResize.Document

/-- A state of a walk is met behind another one when only kids and emptied levels lie between them. -/
inductive Passes : List Object × List (List Object) → List Object × List (List Object) → Prop where
  /-- Nothing is passed over. -/
  | stay (state : List Object × List (List Object)) : Passes state state
  /-- The next kid of the current level is passed over. -/
  | kid {kid : Object} {rest : List Object} {unfinished : List (List Object)}
    {state : List Object × List (List Object)} (later : Passes (rest, unfinished) state) :
    Passes (kid :: rest, unfinished) state
  /-- The current level is at its end, and the innermost unfinished one is gone on with. -/
  | level {level : List Object} {outer : List (List Object)}
    {state : List Object × List (List Object)} (later : Passes (level, outer) state) :
    Passes ([], level :: outer) state

namespace Passes

variable {first second third : List Object × List (List Object)}

/-- What is passed over on two ways is passed over on both together. -/
theorem trans (left : Passes first second) (right : Passes second third) : Passes first third := by
  -- By induction on the first way.
  induction left with
  | stay => exact right
  | kid _ ih => exact .kid (ih right)
  | level _ ih => exact .level (ih right)

/-- All kids that are left of a level can be passed over. -/
theorem all (current : List Object) (unfinished : List (List Object)) :
    Passes (current, unfinished) ([], unfinished) := by
  -- By induction on the kids that are left.
  induction current with
  | nil => exact .stay _
  | cons kid rest ih => exact .kid ih

/-- Behind a state without a next kid there is none either. -/
theorem nextKid_eq_none (passes : Passes first second) (nothing : nextKid first.1 first.2 = none) :
    nextKid second.1 second.2 = none := by
  -- A way over a kid starts where there is one, so only emptied levels lie on this way.
  induction passes with
  | stay => exact nothing
  | kid _ _ => simp [nextKid] at nothing
  | level _ ih =>
    simp only [nextKid] at nothing
    exact ih nothing

/-- What is met behind a state has the same next kid, or is met behind that kid as well. -/
theorem nextKid_cases (passes : Passes first second) {kid : Object} {rest : List Object}
    {outer : List (List Object)} (next : nextKid first.1 first.2 = some (kid, rest, outer)) :
    nextKid second.1 second.2 = some (kid, rest, outer) ∨ Passes (rest, outer) second := by
  -- Either nothing but emptied levels lies between, or the next kid is the first that is passed over.
  induction passes with
  | stay => exact .inl next
  | kid later _ =>
    simp only [nextKid] at next
    cases next
    exact .inr later
  | level _ ih =>
    simp only [nextKid] at next
    exact ih next

end Passes

variable {document before after : Document} {id : ObjectId}

/-- A walk that goes down into a kid comes back to what is left beside it. -/
theorem passes_behind (document : Document) (kid : Object) (rest : List Object)
    (outer : List (List Object)) : Passes (document.behind kid rest outer) (rest, outer) := by
  -- Only a node puts kids in front of what is left, and those can be passed over.
  unfold behind
  split
  · split
    · -- Only a level with something left is remembered.
      cases rest with
      | nil => exact .all _ outer
      | cons head tail => exact (Passes.all _ _).trans (.level (.stay _))
    · exact .stay _
  · exact .stay _
  · exact .stay _

/--
A document has a pruned page tree when some kids count as nothing and all others are what they were.

A node that still counts as one has its old kids.
-/
structure Prunes (before after : Document) : Prop where
  kinds : ∀ kid, after.classifyKid kid = before.classifyKid kid ∨ after.classifyKid kid = .other
  kids : ∀ {kid id}, after.classifyKid kid = .node id → after.kids id = before.kids id

namespace Prunes

variable (prunes : Prunes before after) {kid : Object} {rest : List Object} {outer : List (List Object)}

include prunes

/-- A page that a pruned document lists at a kid is listed there by the whole one. -/
theorem mem_pagesAt (member : id ∈ after.pagesAt kid) : id ∈ before.pagesAt kid := by
  -- A kid has kept its kind, or it has none and lists nothing.
  rcases prunes.kinds kid with same | nothing
  · simpa only [pagesAt, same] using member
  · simp [pagesAt, nothing] at member

/-- Behind a kid that is left out the walk is where the whole one comes back to. -/
theorem passes_behind : Passes (before.behind kid rest outer) (after.behind kid rest outer) := by
  -- A kid that has kept its kind is followed by the same state, and any other by what was left.
  rcases prunes.kinds kid with same | nothing
  · have equal : after.behind kid rest outer = before.behind kid rest outer := by
      unfold behind
      rw [same]
      split
      · rename_i kind
        rw [prunes.kids (same.trans kind)]
      · rfl
      · rfl
    rw [equal]
    exact .stay _
  · have left : after.behind kid rest outer = (rest, outer) := by simp [behind, nothing]
    rw [left]
    exact before.passes_behind kid rest outer

/-- What a pruned walk finds from a state on, a whole walk that ends finds from any state before it. -/
theorem mem_walk {budget more : Nat} {state later : List Object × List (List Object)}
    (ends : before.endsWithin budget state.1 state.2) (passes : Passes state later)
    (member : id ∈ after.walk more later.1 later.2) : id ∈ before.walk budget state.1 state.2 := by
  -- The induction is on the whole walk; the pruned one either waits for it or takes a step with it.
  induction budget generalizing more state later with
  | zero =>
    rw [walk_of_none (passes.nextKid_eq_none (Option.isNone_iff_eq_none.1 ends))] at member
    cases member
  | succ budget ih =>
    cases next : nextKid state.1 state.2 with
    | none =>
      rw [walk_of_none (passes.nextKid_eq_none next)] at member
      cases member
    | some step =>
      obtain ⟨kid, rest, outer⟩ := step
      rw [endsWithin_succ next] at ends
      rw [walk_succ next, List.mem_append]
      rcases passes.nextKid_cases next with same | past
      · cases more with
        | zero => cases member
        | succ more =>
          rw [walk_succ same, List.mem_append] at member
          exact member.imp prunes.mem_pagesAt (ih ends prunes.passes_behind)
      · exact .inr (ih ends ((before.passes_behind kid rest outer).trans past) member)

end Prunes

/-! ### Trees that are inherited -/

namespace Inherits

variable {keys : List Bytes} {places : ObjectId → Prop} (inherits : Inherits keys places before after)
  (apart : ∀ key ∈ treeKeys, key ∉ keys)

include inherits apart

/-- A node that is still a dictionary has the kids it had. -/
theorem kids_eq {node : Dictionary} (found : after.dictionary id = .ok node) :
    after.kids id = before.kids id := by
  -- Its dictionary is an old one, and the list of kids is not among the changed keys.
  obtain ⟨old, present, same⟩ := inherits.dictionary found
  simp only [kids, found, present, same _ (apart (ascii "Kids") (by decide))]

/-- Every kid keeps its kind or loses it. -/
theorem classifyKid_cases (kid : Object) :
    after.classifyKid kid = before.classifyKid kid ∨ after.classifyKid kid = .other := by
  cases kid with
  | reference id =>
    cases found : after.dictionary id with
    | error cause => exact .inr (by simp only [classifyKid, found])
    | ok new =>
      obtain ⟨old, present, same⟩ := inherits.dictionary found
      left
      -- The name of a type is read off two entries.
      have name : new.typeName? = old.typeName? := by
        simp only [Dictionary.typeName?, same _ (apart (ascii "Type") (by decide)),
          same _ (apart (ascii "Linearized") (by decide))]
      simp only [classifyKid, found, present, name]
  | _ => exact .inl rfl

/-- A document that inherits the keys of the tree is a pruned one. -/
theorem prunes : Prunes before after where
  kinds := inherits.classifyKid_cases apart
  kids {kid id} kind := by
    -- Only a reference to a dictionary counts as a node.
    cases kid with
    | reference node =>
      cases found : after.dictionary node with
      | error cause => simp [classifyKid, found] at kind
      | ok new =>
        simp only [classifyKid, found] at kind
        split at kind
        · cases kind
        · split at kind
          · cases kind
            exact inherits.kids_eq apart found
          · cases kind
    | _ => cases kind

/-- The root of the tree, if there still is one, was the root. -/
theorem pageTreeRoot?_eq {top : ObjectId} (root : after.pageTreeRoot? = some top) :
    before.pageTreeRoot? = some top := by
  -- The trailer names the same catalog, and the catalog the same root.
  unfold pageTreeRoot? at root ⊢
  rw [inherits.trailer] at root
  split at root
  · rename_i catalogId _
    cases found : after.dictionary catalogId with
    | error cause => simp [found, Except.toOption] at root
    | ok catalog =>
      obtain ⟨old, present, same⟩ := inherits.dictionary found
      simpa only [found, present, Except.toOption, same _ (apart (ascii "Pages") (by decide)), bind,
        Option.bind] using root
  · cases root

/-- What is a page of the later state was a page before, if the walk through the pages had come to its end. -/
theorem mem_pageIds (ends : before.walkEnds) (member : id ∈ after.pageIds) : id ∈ before.pageIds := by
  unfold pageIds at member ⊢
  cases root : after.pageTreeRoot? with
  | none =>
    rw [root] at member
    cases member
  | some top =>
    have old := inherits.pageTreeRoot?_eq apart root
    simp only [walkEnds, old] at ends
    rw [root] at member
    rw [old]
    -- The topmost node has its old kids, or none of them.
    have topmost : Passes (before.kids top, []) (after.kids top, []) := by
      cases found : after.dictionary top with
      | ok node =>
        rw [inherits.kids_eq apart found]
        exact .stay _
      | error cause =>
        have none : after.kids top = [] := by simp only [kids, found]
        rw [none]
        exact .all _ _
    exact (inherits.prunes apart).mem_walk ends topmost member

end Inherits

end PdfResize.Document
