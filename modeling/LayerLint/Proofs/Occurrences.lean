import LayerLint.Tree.Node

/-!
# `Proofs.Occurrences` — where nodes stand in a tree

A tree may hold equal nodes in several places, so what a walk visits is not nodes but **positions**:
the indices of the children to go down to from the root. In the order of lists a position comes before
those below it and before those further right, which is pre-order.

## Contents
- **Positions.** `Node.at?`, `Node.above` (the nodes on the way), and `Node.positions`.
- **Pre-order.** `mem_positions`, `positions_increasing`: every position of the tree, each once,
  in increasing order.
- **Occurrences.** `Node.occurrences`, the nodes at the positions below their ancestors, with the
  equation over the children (`occurrences_mk`).
-/

namespace LayerLint

namespace Node

/-! ## Positions -/

/-- The node at a position. -/
def at? : List Nat → Node → Option Node
  | [], n => some n
  | i :: p, n => n.children[i]?.bind (at? p)

/-- The nodes on the way down to a position, outermost first, without the node there. -/
def above : List Nat → Node → List Node
  | [], _ => []
  | i :: p, n => n :: n.children[i]?.elim [] (above p)

mutual

/-- The positions of a tree. -/
def positions : Node → List (List Nat)
  | mk _ cs => [] :: positionsFrom 0 cs

/-- The positions in a list of siblings whose first has index `i`. -/
def positionsFrom (i : Nat) : List Node → List (List Nat)
  | [] => []
  | n :: ns => n.positions.map (i :: ·) ++ positionsFrom (i + 1) ns

end

/-! ## Pre-order -/

/-- Positions among siblings start with the index of one of them. -/
theorem mem_positionsFrom {i : Nat} {ns : List Node} {p : List Nat} :
    p ∈ positionsFrom i ns ↔ ∃ k n q, ns[k]? = some n ∧ q ∈ n.positions ∧ p = (i + k) :: q := by
  induction ns generalizing i with
  | nil => simp [positionsFrom]
  | cons n ns ih =>
      simp only [positionsFrom, List.mem_append, List.mem_map, ih]
      constructor
      · rintro (⟨q, hq, rfl⟩ | ⟨k, m, q, hm, hq, rfl⟩)
        · exact ⟨0, n, q, rfl, hq, rfl⟩
        · exact ⟨k + 1, m, q, hm, hq, by rw [Nat.add_assoc, Nat.add_comm 1 k]⟩
      · rintro ⟨k, m, q, hm, hq, rfl⟩
        cases k with
        | zero =>
            obtain rfl : n = m := by simpa using hm
            exact Or.inl ⟨q, hq, rfl⟩
        | succ k => exact Or.inr ⟨k, m, q, by simpa using hm, hq, by
            rw [Nat.add_assoc, Nat.add_comm 1 k]⟩

/-- `positions` lists exactly the positions at which the tree has a node. -/
theorem mem_positions {p : List Nat} {n : Node} : p ∈ n.positions ↔ (at? p n).isSome := by
  induction p generalizing n with
  | nil => cases n; simp [positions, at?]
  | cons i p ih =>
      obtain ⟨info, cs⟩ := n
      simp only [positions, List.mem_cons, reduceCtorEq, false_or, mem_positionsFrom, Nat.zero_add,
        List.cons.injEq, at?, children_mk]
      constructor
      · rintro ⟨k, c, q, hc, hq, rfl, rfl⟩
        rw [hc]
        exact ih.mp hq
      · intro h
        cases hc : cs[i]? with
        | none => simp [hc] at h
        | some c => exact ⟨i, c, p, hc, ih.mpr (by simpa [hc] using h), rfl, rfl⟩

mutual

/-- The positions of a tree increase: it is listed in pre-order, each position once. -/
theorem positions_increasing : ∀ n : Node, n.positions.Pairwise (· < ·)
  | mk _ cs => by
      rw [positions, List.pairwise_cons]
      refine ⟨fun p hp => ?_, positionsFrom_increasing 0 cs⟩
      obtain ⟨k, n, q, -, -, rfl⟩ := mem_positionsFrom.mp hp
      exact List.Lex.nil

theorem positionsFrom_increasing : ∀ (i : Nat) (ns : List Node), (positionsFrom i ns).Pairwise (· < ·)
  | _, [] => by simp [positionsFrom]
  | i, n :: ns => by
      rw [positionsFrom, List.pairwise_append]
      refine ⟨?_, positionsFrom_increasing (i + 1) ns, ?_⟩
      · rw [List.pairwise_map]
        exact (positions_increasing n).imp fun h => List.Lex.cons h
      · intro p hp q hq
        obtain ⟨p', -, rfl⟩ := List.mem_map.mp hp
        obtain ⟨k, m, q', -, -, rfl⟩ := mem_positionsFrom.mp hq
        exact List.Lex.rel (by omega)

end

end Node

/-! ## Occurrences -/

/-- A node where it stands in a tree: below its ancestors, outermost first. -/
structure Occurrence where
  ancestors : List Node
  node : Node

/-- An occurrence in a child of `n` as one in `n`. -/
def Occurrence.under (n : Node) (o : Occurrence) : Occurrence := { o with ancestors := n :: o.ancestors }

/-- An occurrence in a tree that itself stands below some nodes. -/
def Occurrence.within (around : List Node) (o : Occurrence) : Occurrence :=
  { o with ancestors := around ++ o.ancestors }

theorem Occurrence.within_under (around : List Node) (n : Node) (o : Occurrence) :
    (o.under n).within around = o.within (around ++ [n]) := by
  simp [under, within]

namespace Node

/-- The occurrence at a position. -/
def occurrenceAt? (root : Node) (p : List Nat) : Option Occurrence :=
  (root.at? p).map fun n => ⟨root.above p, n⟩

/-- The nodes of a tree with their ancestors, in the order of their positions. -/
def occurrences (root : Node) : List Occurrence := root.positions.filterMap root.occurrenceAt?

/-- The occurrence at a position in a child. -/
theorem occurrenceAt?_cons {info : NodeInfo} {cs : List Node} {i : Nat} {c : Node} (h : cs[i]? = some c)
    (p : List Nat) :
    (mk info cs).occurrenceAt? (i :: p) = (c.occurrenceAt? p).map (·.under (mk info cs)) := by
  simp [occurrenceAt?, at?, above, h, Occurrence.under, Function.comp_def]

/-- The occurrences in the children from index `i` on. -/
theorem filterMap_positionsFrom {info : NodeInfo} {cs : List Node} (i : Nat) (ns : List Node)
    (h : ∀ k, cs[i + k]? = ns[k]?) :
    (positionsFrom i ns).filterMap (mk info cs).occurrenceAt? =
      ns.flatMap fun c => c.occurrences.map (·.under (mk info cs)) := by
  induction ns generalizing i with
  | nil => simp [positionsFrom]
  | cons n ns ih =>
      have hn : cs[i]? = some n := by simpa using h 0
      have hrest : ∀ k, cs[i + 1 + k]? = ns[k]? := by
        intro k
        have hk := h (k + 1)
        rwa [List.getElem?_cons_succ, ← Nat.add_assoc, Nat.add_right_comm] at hk
      have hfirst : (n.positions.map (i :: ·)).filterMap (mk info cs).occurrenceAt? =
          n.occurrences.map (·.under (mk info cs)) := by
        rw [List.filterMap_map, occurrences, List.map_filterMap]
        congr 1
        funext p
        exact occurrenceAt?_cons hn p
      rw [positionsFrom, List.filterMap_append, hfirst, ih (i + 1) hrest, List.flatMap_cons]

/-- **A tree's occurrences** are the root, then those of its children from left to right with the root
as one more ancestor. -/
theorem occurrences_mk (info : NodeInfo) (cs : List Node) :
    (mk info cs).occurrences =
      ⟨[], mk info cs⟩ :: cs.flatMap fun c => c.occurrences.map (·.under (mk info cs)) := by
  have hroot : (mk info cs).occurrenceAt? [] = some ⟨[], mk info cs⟩ := rfl
  rw [occurrences, positions, List.filterMap_cons_some hroot,
    filterMap_positionsFrom 0 cs (fun k => by rw [Nat.zero_add])]

end Node

end LayerLint
