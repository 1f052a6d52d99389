import LayerLint.Analyzer
import LayerLint.Proofs.Occurrences

/-!
# `Proofs.Walk` — what a walk over a tree comes down to

The analyzer walks a tree with a stack of ancestors and looks up positions of rules in a table. Neither
shows in the result: each occurrence of the tree is handled on its own, with its ancestors, and the walk
puts the findings together in pre-order.

## Contents
- **Gathering.** `gather`, running through a list until the first fault.
- **Dispatch.** `positionsFor_ofRules`: for each kind the table lists every rule once for each time it
  names the kind, and every position in it holds a rule.
- **Walking.** `visit_eq`: the stack is left as it was found, and the findings added are those of the
  occurrences in pre-order. Hence `analyzeUnit_eq_gather`.
-/

namespace LayerLint

/-! ## Gathering -/

section Gather

variable {α : Type} {f g : α → Except Fault (List Diagnostic)} {xs : List α}

/-- The results for a list one after the other; the first fault ends it. -/
def gather (f : α → Except Fault (List Diagnostic)) : List α → Except Fault (List Diagnostic)
  | [] => .ok []
  | x :: xs => do
      let ds ← f x
      let es ← gather f xs
      return ds ++ es

@[simp] theorem gather_nil : gather f [] = .ok [] := rfl

theorem gather_cons (x : α) (xs : List α) :
    gather f (x :: xs) = do return (← f x) ++ (← gather f xs) := rfl

theorem gather_append (xs ys : List α) :
    gather f (xs ++ ys) = do return (← gather f xs) ++ (← gather f ys) := by
  induction xs with
  | nil =>
      rw [List.nil_append, gather_nil]
      cases gather f ys <;> rfl
  | cons x xs ih =>
      rw [List.cons_append, gather_cons, gather_cons, ih]
      cases f x with
      | error e => rfl
      | ok ds =>
          cases gather f xs with
          | error e => rfl
          | ok es =>
              cases gather f ys with
              | error e => rfl
              | ok fs =>
                  show Except.ok (ds ++ (es ++ fs)) = Except.ok (ds ++ es ++ fs)
                  rw [List.append_assoc]

theorem gather_congr (h : ∀ x ∈ xs, f x = g x) : gather f xs = gather g xs := by
  induction xs with
  | nil => rfl
  | cons x xs ih =>
      rw [gather_cons, gather_cons, h x List.mem_cons_self,
        ih fun y hy => h y (List.mem_cons_of_mem x hy)]

/-- Gathering from copies of one element depends on its result only. -/
theorem gather_replicate_congr {β : Type} {h : β → Except Fault (List Diagnostic)} {x : α} {y : β}
    (hxy : f x = h y) (n : Nat) : gather f (List.replicate n x) = gather h (List.replicate n y) := by
  induction n with
  | zero => rfl
  | succ n ih => rw [List.replicate_succ, List.replicate_succ, gather_cons, gather_cons, hxy, ih]

theorem gather_map {β : Type} (k : β → α) (ys : List β) :
    gather f (ys.map k) = gather (fun y => f (k y)) ys := by
  induction ys with
  | nil => rfl
  | cons y ys ih => rw [List.map_cons, gather_cons, gather_cons, ih]

theorem gather_flatMap {β : Type} (k : β → List α) (ys : List β) :
    gather f (ys.flatMap k) = gather (fun y => gather f (k y)) ys := by
  induction ys with
  | nil => rfl
  | cons y ys ih => rw [List.flatMap_cons, gather_append, gather_cons, ih]

/-- Gathering succeeds with the results put together when every element does. -/
theorem gather_eq_ok {k : α → List Diagnostic} (h : ∀ x ∈ xs, f x = .ok (k x)) :
    gather f xs = .ok (xs.flatMap k) := by
  induction xs with
  | nil => rfl
  | cons x xs ih =>
      rw [gather_cons, h x List.mem_cons_self, ih fun y hy => h y (List.mem_cons_of_mem x hy)]
      rfl

/-- Gathering fails as its first element that fails does. -/
theorem gather_eq_error {before after : List α} {x : α} {e : Fault}
    (h : ∀ b ∈ before, ∃ ds, f b = .ok ds) (hx : f x = .error e) :
    gather f (before ++ x :: after) = .error e := by
  induction before with
  | nil =>
      rw [List.nil_append, gather_cons, hx]
      rfl
  | cons b before ih =>
      obtain ⟨ds, hb⟩ := h b List.mem_cons_self
      rw [List.cons_append, gather_cons, hb, ih fun y hy => h y (List.mem_cons_of_mem b hy)]
      rfl

/-- Either every element succeeds, or there is a first one that does not. -/
theorem all_ok_or_first_error (f : α → Except Fault (List Diagnostic)) (xs : List α) :
    (∀ x ∈ xs, ∃ ds, f x = .ok ds) ∨
      ∃ before x after e, xs = before ++ x :: after ∧ (∀ b ∈ before, ∃ ds, f b = .ok ds) ∧
        f x = .error e := by
  induction xs with
  | nil => exact Or.inl fun x hx => absurd hx (by simp)
  | cons x xs ih =>
      cases hx : f x with
      | error e => exact Or.inr ⟨[], x, xs, e, rfl, fun b hb => absurd hb (by simp), hx⟩
      | ok ds =>
          rcases ih with hall | ⟨before, y, after, e, rfl, hb, hy⟩
          · refine Or.inl fun z hz => ?_
            rcases List.mem_cons.mp hz with rfl | hz
            · exact ⟨ds, hx⟩
            · exact hall z hz
          · refine Or.inr ⟨x :: before, y, after, e, rfl, fun z hz => ?_, hy⟩
            rcases List.mem_cons.mp hz with rfl | hz
            · exact ⟨ds, hx⟩
            · exact hb z hz

end Gather

/-! ## Dispatch -/

namespace Dispatch

theorem positionsFor_register (d : Dispatch) (j k : Kind) (i : Nat) :
    (d.register j i).positionsFor k = d.positionsFor k ++ if j = k then [i] else [] := by
  induction d with
  | nil =>
      by_cases h : j = k
      · subst h; simp [register, positionsFor]
      · have hne : (k == j) = false := by simpa using Ne.symm h
        simp [register, positionsFor, List.lookup_cons, hne, h]
  | cons entry d ih =>
      obtain ⟨l, is⟩ := entry
      simp only [register]
      -- The position goes to the first entry for `j`; that entry answers for `k` only if the kinds agree.
      by_cases hlk : k = l
      · subst hlk
        by_cases hlj : k = j
        · subst hlj; simp [positionsFor]
        · have hne : ¬j = k := Ne.symm hlj
          simp [positionsFor, hlj, hne]
      · have hne : (k == l) = false := by simpa using hlk
        by_cases hlj : l = j
        · subst hlj
          simp [positionsFor, List.lookup_cons, hne, Ne.symm hlk]
        · simp only [if_neg hlj]
          simpa [positionsFor, List.lookup_cons, hne] using ih

/-- Registering a rule appends its position as often as the rule names the kind. -/
theorem positionsFor_addRule (d : Dispatch) (r : Rule) (i : Nat) (k : Kind) :
    (d.addRule r i).positionsFor k = d.positionsFor k ++ List.replicate (r.kinds.count k) i := by
  unfold addRule
  generalize r.kinds = kinds
  induction kinds generalizing d with
  | nil => simp
  | cons j kinds ih =>
      rw [List.foldl_cons, ih, positionsFor_register, List.append_assoc, List.count_cons]
      by_cases h : j = k
      · simp [h, List.replicate_succ]
      · simp [h]

/-- **The table of a list of rules.** For a kind it holds the position of every rule, in order, as
often as the rule names the kind. -/
theorem positionsFor_ofRules (rules : List Rule) (k : Kind) :
    (ofRules rules).positionsFor k =
      rules.zipIdx.flatMap fun (r, i) => List.replicate (r.kinds.count k) i := by
  -- The table grows as the fold goes on, so the induction is over the entries, for every table.
  have hfold : ∀ (entries : List (Rule × Nat)) (d : Dispatch),
      (entries.foldl (fun d (r, i) => d.addRule r i) d).positionsFor k =
        d.positionsFor k ++ entries.flatMap fun (r, i) => List.replicate (r.kinds.count k) i := by
    intro entries
    induction entries with
    | nil => intro d; simp
    | cons entry entries ih =>
        intro d
        rw [List.foldl_cons, ih, positionsFor_addRule, List.flatMap_cons, List.append_assoc]
  rw [ofRules, hfold]
  simp [positionsFor]

end Dispatch

/-! ## Walking -/

namespace Walk

@[simp] theorem ancestors_add (w : Walk) (ds : List Diagnostic) : (w.add ds).ancestors = w.ancestors := rfl

@[simp] theorem ancestors_enter (w : Walk) (n : Node) :
    (w.enter n).ancestors = w.ancestors ++ [n] := rfl

@[simp] theorem add_nil (w : Walk) : w.add [] = w := by simp [add]

theorem add_add (w : Walk) (ds es : List Diagnostic) : (w.add ds).add es = w.add (ds ++ es) := by
  simp [add]

/-- Leaving a node undoes entering it, whatever was found in between. -/
theorem leave_add_enter (w : Walk) (n : Node) (ds : List Diagnostic) :
    ((w.enter n).add ds).leave = w.add ds := by
  simp [leave, add, enter]

/-- Steps that only add findings, which depend on the ancestors alone, add the findings of the whole list. -/
theorem foldlM_add {α : Type} {step : Walk → α → Except Fault Walk}
    {f : List Node → α → Except Fault (List Diagnostic)}
    (hstep : ∀ w x, step w x = do return w.add (← f w.ancestors x)) (w : Walk) (xs : List α) :
    xs.foldlM step w = do return w.add (← gather (f w.ancestors) xs) := by
  induction xs generalizing w with
  | nil => simp [pure, Except.pure, bind, Except.bind]
  | cons x xs ih =>
      rw [List.foldlM_cons, gather_cons, hstep]
      cases f w.ancestors x with
      | error e => rfl
      | ok ds =>
          -- The next step sees the same ancestors: adding findings does not move the walk.
          show xs.foldlM step (w.add ds) = _
          rw [ih (w.add ds), ancestors_add]
          cases gather (f w.ancestors) xs with
          | error e => rfl
          | ok es =>
              show Except.ok ((w.add ds).add es) = Except.ok (w.add (ds ++ es))
              rw [add_add]

end Walk

namespace Analyzer

variable (a : Analyzer) (u : UnitContext)

/-- The findings at an occurrence: the rules for the kind of its node run in order. -/
def findingsAt (o : Occurrence) : Except Fault (List Diagnostic) :=
  gather (a.runRule ⟨u, o.node, o.ancestors⟩) (a.dispatch.positionsFor o.node.kind)

/-- Checking a node adds the findings at its occurrence and leaves the stack alone. -/
theorem checkNode_eq (w : Walk) (n : Node) :
    a.checkNode u w n = do return w.add (← a.findingsAt u ⟨w.ancestors, n⟩) := by
  rw [checkNode, Walk.foldlM_add (f := fun around i => a.runRule ⟨u, n, around⟩ i) fun _ _ => rfl]
  rfl

mutual

/-- **A walk over a tree** adds the findings at its occurrences, in order, each below the nodes on the
stack; the stack is as before when it ends. -/
theorem visit_eq : ∀ (w : Walk) (n : Node), a.visit u w n = do
    return w.add (← gather (a.findingsAt u) (n.occurrences.map (·.within w.ancestors)))
  | w, .mk info cs => by
      have hroot : Occurrence.within w.ancestors ⟨[], .mk info cs⟩ = ⟨w.ancestors, .mk info cs⟩ := by
        simp [Occurrence.within]
      rw [visit, checkNode_eq, Node.occurrences_mk, List.map_cons, gather_cons, hroot]
      cases a.findingsAt u ⟨w.ancestors, .mk info cs⟩ with
      | error e => rfl
      | ok ds =>
          -- Below the node the stack is one longer, and `leave` takes off exactly what `enter` put there.
          show (do
            let w ← a.visitAll u ((w.add ds).enter (.mk info cs)) cs
            return w.leave) = _
          rw [visitAll_eq _ cs, Walk.ancestors_enter, Walk.ancestors_add]
          simp only [List.map_flatMap, List.map_map, Function.comp_def, Occurrence.within_under]
          cases gather (a.findingsAt u) (cs.flatMap fun n =>
              n.occurrences.map (·.within (w.ancestors ++ [.mk info cs]))) with
          | error e => rfl
          | ok es =>
              show Except.ok ((((w.add ds).enter _).add es).leave) = Except.ok (w.add (ds ++ es))
              rw [Walk.leave_add_enter, Walk.add_add]

theorem visitAll_eq : ∀ (w : Walk) (ns : List Node), a.visitAll u w ns = do
    return w.add (← gather (a.findingsAt u) (ns.flatMap fun n => n.occurrences.map (·.within w.ancestors)))
  | w, [] => by simp [visitAll, pure, Except.pure, bind, Except.bind]
  | w, n :: ns => by
      rw [visitAll, visit_eq w n, List.flatMap_cons, gather_append]
      cases gather (a.findingsAt u) (n.occurrences.map (·.within w.ancestors)) with
      | error e => rfl
      | ok ds =>
          show a.visitAll u (w.add ds) ns = _
          rw [visitAll_eq _ ns, Walk.ancestors_add]
          cases gather (a.findingsAt u) (ns.flatMap fun n => n.occurrences.map (·.within w.ancestors)) with
          | error e => rfl
          | ok es =>
              show Except.ok ((w.add ds).add es) = Except.ok (w.add (ds ++ es))
              rw [Walk.add_add]

end

/-- The analysis of a unit sorts the findings at the occurrences of its tree. -/
theorem analyzeUnit_eq_gather (unit : CompilationUnit) (model : Model) :
    a.analyzeUnit unit model = do
      return Diagnostic.sort (← gather (a.findingsAt ⟨unit, model, a.settings⟩) unit.root.occurrences) := by
  have hwithin : unit.root.occurrences.map (·.within ({} : Walk).ancestors) = unit.root.occurrences :=
    List.map_id _
  rw [analyzeUnit, visit_eq, hwithin]
  cases gather (a.findingsAt ⟨unit, model, a.settings⟩) unit.root.occurrences with
  | error e => rfl
  | ok ds => rfl

end Analyzer

end LayerLint
