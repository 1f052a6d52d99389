import LayerLint.Proofs.Renaming

/-!
# `Proofs.Unassigned` — entries under the id that nodes have by default

A node that is given no id has the id `0`, and a table may have entries under `0` like under any other id. No
lookup tells the two apart: such an entry is the answer for every node that was given no id. What can be said
is when the entries do no harm, and that the harm is one-sided.

## Contents
- **Entries.** `IdMap.erase`, `SymbolTable.assigned`: a table without what it has under `0`.
- **Lookups.** `SymbolTable.silent_unassigned_iff`: nodes without an id resolve nothing exactly if there is
  nothing under `0`. `SymbolTable.Spares`: no such node is asked about a fact that there is.
- **Result.** `unassigned_entries_only_add`; `unassigned_nodes_resolve` shows that they do add findings.
-/

namespace LayerLint

/-! ## Entries -/

namespace IdMap

variable {α : Type}

/-- The map without the entry of an id. -/
def erase (m : IdMap α) (k : Id) : IdMap α where
  entries := m.entries.filter (·.1 ≠ k)
  ascending := m.ascending.filter _

/-- An erasure takes the value of its id and of no other. -/
theorem get?_erase (m : IdMap α) (k j : Id) : (m.erase k).get? j = if j = k then none else m.get? j := by
  apply Option.ext
  intro a
  rw [get?_eq_some_iff, erase, List.mem_filter, decide_eq_true_iff]
  split
  · next heq => simp [heq]
  · next hne => simp [hne, get?_eq_some_iff]

theorem get?_erase_of_none {m : IdMap α} {k j : Id} (h : j = k → m.get? k = none) :
    (m.erase k).get? j = m.get? j := by
  rw [get?_erase]
  split
  · next heq => rw [heq, h heq]
  · rfl

theorem erase_eq_self_iff {m : IdMap α} {k : Id} : m.erase k = m ↔ m.get? k = none := by
  constructor
  · intro h
    rw [← h, get?_erase, if_pos rfl]
  · intro h
    exact ext fun j => get?_erase_of_none fun _ => h

end IdMap

/-- The node has the id that nodes have by default. -/
def Node.Unassigned (n : Node) : Prop := n.id = 0

instance (n : Node) : Decidable n.Unassigned := inferInstanceAs (Decidable (n.id = 0))

/-- The table without what it says about unassigned nodes. -/
def SymbolTable.assigned (t : SymbolTable) : SymbolTable where
  symbols := t.symbols.erase 0
  types := t.types.erase 0
  constants := t.constants.erase 0
  declarations := t.declarations.erase 0

/-! ## Lookups -/

/-- The host knows nothing about the node. -/
structure Model.Silent (m : Model) (n : Node) : Prop where
  symbol : m.symbol n = none
  type : m.type n = none
  constant : m.constant n = none
  declared : m.declared n = none

namespace SymbolTable

variable (t : SymbolTable)

/-- **Unassigned nodes resolve nothing exactly if nothing is listed for them.** -/
theorem silent_unassigned_iff : (∀ n : Node, n.Unassigned → t.model.Silent n) ↔ t.assigned = t := by
  constructor
  · intro h
    -- one unassigned node is enough, since all of them get the same answers
    have hsilent : t.model.Silent (.mk {} []) := h _ rfl
    have hsymbols : t.symbols.erase 0 = t.symbols := IdMap.erase_eq_self_iff.mpr hsilent.symbol
    have htypes : t.types.erase 0 = t.types := IdMap.erase_eq_self_iff.mpr hsilent.type
    have hconstants : t.constants.erase 0 = t.constants := IdMap.erase_eq_self_iff.mpr hsilent.constant
    have hdeclarations : t.declarations.erase 0 = t.declarations := IdMap.erase_eq_self_iff.mpr hsilent.declared
    rw [assigned, hsymbols, htypes, hconstants, hdeclarations]
  · intro h n hn
    have hid : n.id = 0 := hn
    rw [← h]
    constructor
    all_goals
      show (IdMap.erase _ 0).get? n.id = none
      rw [IdMap.get?_erase, if_pos hid]

/-- Without the entries for unassigned nodes a table knows less. -/
theorem assigned_within : t.assigned.Within t where
  symbols _ he := List.mem_of_mem_filter he
  types _ he := List.mem_of_mem_filter he
  constants _ he := List.mem_of_mem_filter he
  declarations _ he := List.mem_of_mem_filter he

/-- **The table spares the unassigned nodes of a tree**: where the built-in rules ask for a fact about a node of
the tree and the node is unassigned, no such fact is listed for unassigned nodes. This is so if every node of the
tree has an id of its own, and if the table lists nothing for unassigned nodes. -/
structure Spares (root : Node) : Prop where
  symbol : ∀ n ∈ root.preorder, n.kind = .identifierName ∨ n.kind = .memberAccess →
    n.Unassigned → t.symbols.get? 0 = none
  type : ∀ p ∈ root.preorder, p.kind = .classDecl ∨ p.kind = .memberAccess → ∀ n ∈ p.children,
    n.Unassigned → t.types.get? 0 = none
  constant : ∀ n ∈ root.preorder, n.kind = .literal → n.Unassigned → t.constants.get? 0 = none
  declared : ∀ p ∈ root.preorder, p.kind = .classDecl → ∀ n ∈ p :: p.children,
    n.Unassigned → t.declarations.get? 0 = none

variable {t}

/-- Where unassigned nodes are spared, nothing that is asked is answered by an entry for them. -/
theorem Spares.corresponds {root : Node} (h : t.Spares root) :
    t.model.Corresponds (fun i => i) (fun i => i) t.assigned.model root where
  symbol n hn hkind := by
    simp only [Node.rename_self, Symbol.rename_self, Option.map_id']
    exact IdMap.get?_erase_of_none (h.symbol n hn hkind)
  type p hp hkind n hn := by
    simp only [Node.rename_self, TypeInfo.rename_self, Option.map_id']
    exact IdMap.get?_erase_of_none (h.type p hp hkind n hn)
  constant n hn hkind := by
    rw [Node.rename_self]
    exact IdMap.get?_erase_of_none (h.constant n hn hkind)
  declared p hp hkind n hn := by
    simp only [Node.rename_self, Symbol.rename_self, Option.map_id']
    exact IdMap.get?_erase_of_none (h.declared p hp hkind n hn)

end SymbolTable

/-! ## Result -/

/-- **Entries for unassigned nodes can only add findings.** Unassigned nodes resolve nothing exactly if the table
has no entry for them. Deleting such entries leaves an analysis with built-in rules as it is if the table spares
the unassigned nodes of the unit; and in any case, if both analyses finish, it adds no finding of any code. -/
theorem unassigned_entries_only_add {s : Setup} (hrules : ∀ r ∈ s.rules, r ∈ Catalog.rules) {a : Analyzer}
    (hbuild : s.build = .ok a) (unit : CompilationUnit) (table : SymbolTable) :
    ((∀ n : Node, n.Unassigned → table.model.Silent n) ↔ table.assigned = table) ∧
    (table.Spares unit.root →
      a.analyzeUnit unit table.assigned.model = a.analyzeUnit unit table.model) ∧
    ∀ ds es, a.analyzeUnit unit table.assigned.model = .ok ds → a.analyzeUnit unit table.model = .ok es →
      ∀ code, ds.countP (fun d => d.code = code) ≤ es.countP (fun d => d.code = code) := by
  obtain ⟨-, rfl⟩ := s.build_eq_ok_iff.mp hbuild
  refine ⟨table.silent_unassigned_iff, ?_, ?_⟩
  · intro h
    -- where they are spared the two tables correspond, under renamings that rename nothing
    have hsame := Setup.analyzeUnit_rename hrules Function.injective_id h.corresponds
    rwa [CompilationUnit.rename_self] at hsame
  · intro ds es hds hes code
    exact Setup.countP_le_of_within hrules table.assigned_within.model hds hes code

namespace Sample

/-- An interface for unassigned nodes, beside an HTTP verb on the second method of the view. -/
def stray : SymbolTable where
  types := .ofList [(0, { id := 9, name := "IPedido", kind := .interfaceType })]
  declarations := .ofList [(2, action "Guardar" "HttpPost")]

/-- An HTTP verb for unassigned nodes. -/
def strayAction : SymbolTable where
  declarations := .ofList [(0, action "Guardar" "HttpPost")]

end Sample

/-- The class of the view is unassigned, but only its methods, which have ids, are asked for a type. -/
theorem unassigned_entries_only_add_sample :
    Sample.stray.Spares Sample.view.root ∧ Sample.stray.assigned ≠ Sample.stray ∧
    ∃ a, Sample.catalog.build = .ok a ∧
      a.analyzeUnit Sample.view Sample.stray.assigned.model = a.analyzeUnit Sample.view Sample.stray.model := by
  have hspares : Sample.stray.Spares Sample.view.root := by constructor <;> decide +kernel
  have hstray : Sample.stray.assigned ≠ Sample.stray := by
    intro h
    have htypes : Sample.stray.types.get? 0 = none :=
      IdMap.erase_eq_self_iff.mp (congrArg SymbolTable.types h)
    revert htypes
    decide +kernel
  have hrules : ∀ r ∈ Sample.catalog.rules, r ∈ Catalog.rules := fun _ hr => hr
  exact ⟨hspares, hstray, _, Sample.build_catalog,
    (unassigned_entries_only_add hrules Sample.build_catalog Sample.view Sample.stray).2.1 hspares⟩

/-- **Unassigned nodes resolve whatever is listed for them.** In a view whose nodes have no ids, an entry for
unassigned nodes makes a method an HTTP action, which is reported; without the entry nothing is. -/
theorem unassigned_nodes_resolve :
    ¬ (∀ (unit : CompilationUnit) (table : SymbolTable),
        Sample.catalog.analyzer.analyzeUnit unit table.assigned.model =
          Sample.catalog.analyzer.analyzeUnit unit table.model) ∧
    ¬ (∀ (table : SymbolTable) (n : Node), n.Unassigned → table.model.Silent n) := by
  constructor
  · intro h
    have hsame := h (Sample.view.rename fun _ => 0) Sample.strayAction
    rw [Sample.catalog.analyzeUnit_of_all_ok (Call.exists_ok_of_all_isOk (by decide +kernel)),
      Sample.catalog.analyzeUnit_of_all_ok (Call.exists_ok_of_all_isOk (by decide +kernel)),
      Except.ok.injEq] at hsame
    -- one finding with the entry, none without it
    have hlength := congrArg List.length hsame
    rw [Diagnostic.sort, Diagnostic.sort, List.length_mergeSort, List.length_mergeSort] at hlength
    revert hlength
    decide +kernel
  · intro h
    have hdeclared := (h Sample.strayAction (.mk { kind := .methodDecl } []) rfl).declared
    revert hdeclared
    decide +kernel

end LayerLint
