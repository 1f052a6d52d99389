import LayerLint.Proofs.Answers

/-!
# `Proofs.Traversal` — the walks over a tree agree

Trees are walked in three ways: by recursion (`Node.preorder`), step by step with a stack (`Cursor`), and
by an analyzer, which carries the nodes it is inside of. All three come to the same nodes in the same
order. For the cursor this rests on what is left to visit: a step takes the first node off it, whatever
the stack, so a run takes off what it visits, and a walk ends when nothing is left.

## Contents
- **Runs.** `Cursor.Runs`, `Cursor.Visits`; `Runs.remaining_eq`, what a run leaves, and
  `visits_iff`: every walk ends, after exactly the nodes that remain.
- **Positions.** `Node.map_at?_positions`: pre-order lists the node at each position once.
- **Checks.** `Node.CheckedInOrder`, the occurrences an analyzer checks one after the other, and
  `checkedInOrder_iff`: an analyzer that reports all it comes to leaves no other order.
- **Agreement.** `cursor_visits_preorder`.
-/

namespace LayerLint

/-! ## Runs -/

namespace Cursor

/-- Steps one after the other: the nodes visited on the way, and the walk from there on. -/
inductive Runs : Cursor → List Node → Cursor → Prop where
  | refl {c : Cursor} : Runs c [] c
  | step {c rest stop : Cursor} {n : Node} {ns : List Node} :
      c.next? = some (n, rest) → Runs rest ns stop → Runs c (n :: ns) stop

/-- The walk visits the nodes and is over. -/
def Visits (c : Cursor) (ns : List Node) : Prop := ∃ stop, c.Runs ns stop ∧ stop.next? = none

variable {c stop : Cursor} {ns : List Node}

/-- A run visits the first of the nodes that remain and leaves the others. -/
theorem Runs.remaining_eq (h : c.Runs ns stop) : c.remaining = ns ++ stop.remaining := by
  induction h with
  | refl => rfl
  | step hnext _ ih => rw [remaining_of_next? hnext, ih, List.cons_append]

/-- **Every walk ends**, whatever is on the stack, when all that remains is visited. -/
theorem visits_remaining (c : Cursor) : c.Visits c.remaining := by
  -- The number of nodes that remain goes down by one with each step.
  induction hns : c.remaining generalizing c with
  | nil =>
      cases hnext : c.next? with
      | none => exact ⟨c, .refl, hnext⟩
      | some p => simp [remaining_of_next? hnext] at hns
  | cons n ns ih =>
      cases hnext : c.next? with
      | none => simp [remaining_of_next?_none hnext] at hns
      | some p =>
          obtain ⟨rfl, hrest⟩ := List.cons.inj ((remaining_of_next? hnext).symm.trans hns)
          obtain ⟨stop, hrun, hstop⟩ := ih p.2 hrest
          exact ⟨stop, .step hnext hrun, hstop⟩

/-- A run can be left off after any of its nodes. -/
theorem Runs.exists_left {later : List Node} (h : c.Runs (ns ++ later) stop) : ∃ mid, c.Runs ns mid := by
  induction ns generalizing c with
  | nil => exact ⟨c, .refl⟩
  | cons n ns ih =>
      cases h with
      | step hnext hrun =>
          obtain ⟨mid, hmid⟩ := ih hrun
          exact ⟨mid, .step hnext hmid⟩

/-- Runs visit exactly the beginnings of what remains. -/
theorem exists_runs_iff : (∃ mid, c.Runs ns mid) ↔ ns <+: c.remaining := by
  constructor
  · rintro ⟨mid, hrun⟩
    exact ⟨mid.remaining, hrun.remaining_eq.symm⟩
  · rintro ⟨later, hremaining⟩
    obtain ⟨stop, hrun, -⟩ := visits_remaining c
    exact (hremaining ▸ hrun).exists_left

/-- A walk that is over has visited what remained at its start, and nothing else. -/
theorem visits_iff : c.Visits ns ↔ ns = c.remaining := by
  constructor
  · rintro ⟨stop, hrun, hstop⟩
    rw [hrun.remaining_eq, remaining_of_next?_none hstop, List.append_nil]
  · rintro rfl
    exact visits_remaining c

end Cursor

/-! ## Positions -/

namespace Node

/-- Pre-order lists the node at each position, in the order of positions. -/
theorem map_at?_positions (n : Node) : n.positions.map (n.at? ·) = n.preorder.map some := by
  have hnode : (fun p => (n.occurrenceAt? p).map (·.node)) = (n.at? ·) := by
    funext p
    rw [occurrenceAt?, Option.map_map]
    exact Option.map_id_apply
  have hsome : ∀ t ∈ n.positions.map (n.at? ·), t.isSome := by
    intro t ht
    obtain ⟨p, hp, rfl⟩ := List.mem_map.mp ht
    exact mem_positions.mp hp
  rw [← map_node_occurrences, occurrences, List.map_filterMap, hnode,
    List.map_filterMap_some_eq_filter_map_isSome, List.filter_eq_self.mpr hsome]

theorem positions_eq (n : Node) : n.positions = [] :: n.positions.tail := by
  cases n
  rfl

/-- The positions after the first are those below the root. -/
theorem mem_tail_positions {n : Node} {p : List Nat} :
    p ∈ n.positions.tail ↔ p ≠ [] ∧ (n.at? p).isSome := by
  have hincreasing := n.positions_increasing
  rw [positions_eq, List.pairwise_cons] at hincreasing
  rw [← mem_positions, n.positions_eq, List.mem_cons, List.tail_cons]
  constructor
  · intro hp
    exact ⟨fun hroot => absurd (hincreasing.1 p hp) (by rw [hroot]; exact List.lt_irrefl []), Or.inr hp⟩
  · rintro ⟨hne, hp⟩
    exact hp.resolve_left hne

theorem map_at?_tail_positions (n : Node) :
    n.positions.tail.map (n.at? ·) = n.descendants.map some := by
  have hall := n.map_at?_positions
  rw [positions_eq, preorder_eq, ← descendants_eq, List.map_cons, List.map_cons] at hall
  exact (List.cons.inj hall).2

theorem preorderAll_eq_flatMap (ns : List Node) : preorderAll ns = ns.flatMap preorder := by
  induction ns with
  | nil => rfl
  | cons n ns ih => rw [preorderAll, List.flatMap_cons, ih]

/-- The descendants of a node are its children, each followed by its own descendants. -/
theorem descendants_eq_flatMap (n : Node) :
    n.descendants = n.children.flatMap fun c => c :: c.descendants := by
  rw [descendants_eq, preorderAll_eq_flatMap]
  congr 1
  funext c
  rw [preorder_eq, descendants_eq]

end Node

/-! ## Checks -/

namespace Analyzer

variable (a : Analyzer) (u : UnitContext)

/-- Checks the node of an occurrence below the nodes a walk is inside of. -/
def checkAt (w : Walk) (o : Occurrence) : Except Fault Walk := do
  let after ← a.checkNode u { w with ancestors := w.ancestors ++ o.ancestors } o.node
  return { after with ancestors := w.ancestors }

theorem checkAt_eq (w : Walk) (o : Occurrence) :
    a.checkAt u w o = do return w.add (← a.findingsAt u (o.within w.ancestors)) := by
  rw [checkAt, checkNode_eq, Occurrence.within]
  cases a.findingsAt u ⟨w.ancestors ++ o.ancestors, o.node⟩ with
  | error e => rfl
  | ok ds => rfl

/-- Checking occurrences one after the other adds the findings at them, in order. -/
theorem foldlM_checkAt (w : Walk) (os : List Occurrence) :
    os.foldlM (a.checkAt u) w = do
      return w.add (← gather (a.findingsAt u) (os.map (·.within w.ancestors))) := by
  rw [Walk.foldlM_add (f := fun around o => a.findingsAt u (o.within around)) (a.checkAt_eq u), gather_map]

/-- A walk over a tree checks its occurrences one after the other. -/
theorem visit_eq_foldlM (w : Walk) (n : Node) :
    a.visit u w n = n.occurrences.foldlM (a.checkAt u) w := by
  rw [visit_eq, foldlM_checkAt]

/-- The finding by which `telling` reports an occurrence. -/
def told (tell : Occurrence → String) (o : Occurrence) : Diagnostic where
  code := ""
  rule := ""
  location := default
  message := tell o

/-- An analyzer that reports every node it comes to, in the words of `tell`. -/
def telling (tell : Occurrence → String) : Analyzer where
  rules := [{
    name := ""
    descriptors := [{ id := "", name := "", title := "", message := "" }]
    kinds := Kind.all
    check := fun c => .ok [told tell ⟨c.ancestors, c.node⟩] }]
  dispatch := Kind.all.map (·, [0])
  activeCodes := [""]
  settings := {}

theorem findingsAt_telling (tell : Occurrence → String) (o : Occurrence) :
    (telling tell).findingsAt u o = .ok [told tell o] := by
  have hpositions : (telling tell).dispatch.positionsFor o.node.kind = [0] := by
    show Dispatch.positionsFor (Kind.all.map (·, [0])) o.node.kind = [0]
    cases o.node.kind <;> rfl
  rw [findingsAt, hpositions]
  rfl

theorem foldlM_telling (tell : Occurrence → String) (os : List Occurrence) :
    os.foldlM ((telling tell).checkAt u) {} = .ok { found := os.map (told tell) } := by
  have hfound : gather ((telling tell).findingsAt u) (os.map (·.within [])) =
      .ok (os.map (told tell)) := by
    rw [gather_map, List.map_eq_flatMap]
    exact gather_eq_ok fun o _ => findingsAt_telling u tell o
  rw [foldlM_checkAt, hfound]
  rfl

end Analyzer

/-- The occurrences are what a walk over the tree checks, one after the other, whatever the analyzer. -/
def Node.CheckedInOrder (n : Node) (os : List Occurrence) : Prop :=
  ∀ (a : Analyzer) (u : UnitContext) (w : Walk), a.visit u w n = os.foldlM (a.checkAt u) w

open Classical in
/-- A list is known from what can be told of its members, one by one. -/
theorem eq_of_map_eq {α : Type} {xs ys : List α} (h : ∀ f : α → String, xs.map f = ys.map f) :
    xs = ys := by
  have hlength : xs.length = ys.length := by
    simpa using congrArg List.length (h fun _ => "")
  refine List.ext_getElem hlength fun i hx hy => ?_
  have htold := congrArg (·[i]?) (h fun x => if x = xs[i] then "here" else "")
  simp only [List.getElem?_map, List.getElem?_eq_getElem hx, List.getElem?_eq_getElem hy,
    Option.map_some, if_true, Option.some.injEq] at htold
  by_contra hne
  rw [if_neg (Ne.symm hne)] at htold
  exact absurd htold (by decide)

/-- **What a walk checks, one after the other, are the occurrences of the tree**: another list, or another
order, does not fit every analyzer. -/
theorem Node.checkedInOrder_iff {n : Node} {os : List Occurrence} :
    n.CheckedInOrder os ↔ os = n.occurrences := by
  constructor
  · intro h
    -- An analyzer that reports all it comes to shows each of the two lists.
    refine eq_of_map_eq fun tell => ?_
    have hvisit := h (Analyzer.telling tell) ⟨default, SymbolTable.model {}, {}⟩ {}
    rw [Analyzer.visit_eq_foldlM, Analyzer.foldlM_telling, Analyzer.foldlM_telling] at hvisit
    have htold := congrArg (fun w => w.found.map (·.message)) (Except.ok.inj hvisit)
    simp only [List.map_map] at htold
    exact htold.symm
  · rintro rfl a u w
    exact a.visit_eq_foldlM u w n

/-! ## Agreement -/

/-- **The cursor below a node visits the proper descendants in pre-order and ends**, and on the way it has
visited the beginnings of that list. The list is that of the children, each followed by its own descendants;
the nodes in it stand at the positions below the root, each position once, in order. With the root in front
it is the order in which an analyzer checks the nodes of the tree. -/
theorem cursor_visits_preorder (n : Node) :
    (∀ ns, n.cursor.Visits ns ↔ ns = n.descendants) ∧
    (∀ ns, (∃ mid, n.cursor.Runs ns mid) ↔ ns <+: n.descendants) ∧
    n.descendants = (n.children.flatMap fun c => c :: c.descendants) ∧
    (∃ ps : List (List Nat), ps.map (n.at? ·) = n.descendants.map some ∧
      (∀ p, p ∈ ps ↔ p ≠ [] ∧ (n.at? p).isSome) ∧ ps.Pairwise (· < ·)) ∧
    (∀ os, n.CheckedInOrder os ↔ os = n.occurrences) ∧
    n.occurrences.map (·.node) = n :: n.descendants := by
  have hremaining : n.cursor.remaining = n.descendants := by
    rw [Node.remaining_cursor, Node.descendants_eq]
  refine ⟨fun ns => ?_, fun ns => ?_, n.descendants_eq_flatMap, ?_, fun os => Node.checkedInOrder_iff, ?_⟩
  · rw [Cursor.visits_iff, hremaining]
  · rw [Cursor.exists_runs_iff, hremaining]
  · exact ⟨n.positions.tail, n.map_at?_tail_positions, fun p => Node.mem_tail_positions,
      n.positions_increasing.tail⟩
  · rw [Node.map_node_occurrences, Node.preorder_eq, Node.descendants_eq]

/-- A method with a block of two statements, and a property beside it. -/
example :
    (Node.mk {} [
      .mk { kind := .methodDecl } [.mk { kind := .block } [.leaf .ifStatement, .leaf .whileStatement]],
      .leaf .propertyDecl]).descendants.map (·.kind) =
        [.methodDecl, .block, .ifStatement, .whileStatement, .propertyDecl] := by
  decide

end LayerLint
