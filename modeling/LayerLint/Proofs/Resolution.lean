import LayerLint.Proofs.Comparison
import LayerLint.Proofs.Faults
import Mathlib.Data.Finset.Card

/-!
# `Proofs.Resolution` — a resolution miss adds no finding

Every question about a symbol may go unanswered, and rules take a missing answer for "does not apply". A host
that resolves more can therefore only add findings of a code: a member that carries an HTTP verb may give
place to an earlier one, and a class may be reported under its declared name, but no finding is lost.

## Contents
- **Facts.** `SymbolTable.Within`, `Model.Within`: all facts of the one are facts of the other.
- **Outcomes.** Laws of `Covers` for the ways in which checks are put together.
- **Questions.** What the rules make of a missing answer, question by question; entities are counted as a
  set (`Catalog.length_entities`).
- **Rules.** One lemma for each rule that asks about symbols, and `Catalog.resolving`.
- **Result.** `resolution_miss_adds_nothing`.
-/

namespace LayerLint

/-! ## Facts -/

/-- Every entry of the one table, in each of its maps, is an entry of the other. -/
structure SymbolTable.Within (t u : SymbolTable) : Prop where
  symbols : ∀ e ∈ t.symbols.entries, e ∈ u.symbols.entries
  types : ∀ e ∈ t.types.entries, e ∈ u.types.entries
  constants : ∀ e ∈ t.constants.entries, e ∈ u.constants.entries
  declarations : ∀ e ∈ t.declarations.entries, e ∈ u.declarations.entries

/-- Every answer of the one host is the answer of the other. -/
structure Model.Within (m m' : Model) : Prop where
  symbol {n : Node} {s : Symbol} : m.symbol n = some s → m'.symbol n = some s
  type {n : Node} {t : TypeInfo} : m.type n = some t → m'.type n = some t
  constant {n : Node} {v : Constant} : m.constant n = some v → m'.constant n = some v
  declared {n : Node} {s : Symbol} : m.declared n = some s → m'.declared n = some s

theorem IdMap.get?_of_subset {α : Type} {m m' : IdMap α} (h : ∀ e ∈ m.entries, e ∈ m'.entries) {k : Id}
    {a : α} (hk : m.get? k = some a) : m'.get? k = some a :=
  get?_eq_some_iff.mpr (h _ (get?_eq_some_iff.mp hk))

theorem SymbolTable.Within.model {t u : SymbolTable} (h : t.Within u) : t.model.Within u.model where
  symbol := IdMap.get?_of_subset h.symbols
  type := IdMap.get?_of_subset h.types
  constant := IdMap.get?_of_subset h.constants
  declared := IdMap.get?_of_subset h.declarations

/-- What a check sees, with another host. -/
def NodeContext.withModel (c : NodeContext) (m : Model) : NodeContext :=
  { c with unit := { c.unit with model := m } }

/-! ## Outcomes -/

namespace Covers

variable {κ : Type} {feature : Diagnostic → κ} {x y : Except Fault (List Diagnostic)}

theorem refl (x : Except Fault (List Diagnostic)) : Covers feature x x := by
  intro ds es hds hes
  rw [hds] at hes
  obtain rfl := Except.ok.inj hes
  exact .refl ds

theorem silent : Covers feature (pure []) y := by
  intro ds es hds _
  obtain rfl : [] = ds := Except.ok.inj hds
  exact .nil es

theorem ok {ds es : List Diagnostic} (h : Matched feature ds es) : Covers feature (pure ds) (pure es) := by
  intro ds' es' hds hes
  obtain rfl : ds = ds' := Except.ok.inj hds
  obtain rfl : es = es' := Except.ok.inj hes
  exact h

/-- A check that is silent in one case covers one that is silent in more cases. -/
theorem limited {p q : Prop} [Decidable p] [Decidable q] (hqp : q → p) (h : Covers feature x y) :
    Covers feature (if p then pure [] else x) (if q then pure [] else y) := by
  by_cases hp : p
  · rw [if_pos hp]
    exact silent
  · have hq : ¬q := fun hq => hp (hqp hq)
    rw [if_neg hp, if_neg hq]
    exact h

/-- Checks that each first compute something, which may fail. -/
theorem bind {α β : Type} {a : Except Fault α} {b : Except Fault β} {f : α → Except Fault (List Diagnostic)}
    {g : β → Except Fault (List Diagnostic)} (h : ∀ v w, Covers feature (f v) (g w)) :
    Covers feature (a >>= f) (b >>= g) := by
  cases a with
  | error e => exact fun ds es hds _ => nomatch hds
  | ok v =>
      cases b with
      | error e => exact fun ds es _ hes => nomatch hes
      | ok w => exact h v w

/-- Checks that first compute the same thing. -/
theorem located {α : Type} {a : Except Fault α} {f g : α → Except Fault (List Diagnostic)}
    (h : ∀ v, Covers feature (f v) (g v)) : Covers feature (a >>= f) (a >>= g) := by
  cases a with
  | error e => exact fun ds es hds _ => nomatch hds
  | ok v => exact h v

/-- Checks that report some things one by one, where the first one reports some of those of the second. -/
theorem mapM {α : Type} {xs ys : List α} {f g : α → Except Fault Diagnostic} (hsub : xs.Sublist ys)
    (h : ∀ x d e, f x = .ok d → g x = .ok e → d.code = e.code ∧ feature d = feature e) :
    Covers feature (xs.mapM f) (ys.mapM g) := by
  induction hsub with
  | slnil => exact silent
  | @cons xs ys y _ ih =>
      intro ds es hds hes
      obtain ⟨e, rest, -, hrest, rfl⟩ := mapM_cons_eq_ok_iff.mp hes
      exact (ih ds rest hds hrest).skip e
  | @cons_cons xs ys x _ ih =>
      intro ds es hds hes
      obtain ⟨d, ds', hd, hds', rfl⟩ := mapM_cons_eq_ok_iff.mp hds
      obtain ⟨e, es', he, hes', rfl⟩ := mapM_cons_eq_ok_iff.mp hes
      obtain ⟨hcode, hfeature⟩ := h x d e hd he
      exact .cons hcode hfeature (ih ds' es' hds' hes')

end Covers

/-- Findings of one kind have its code, wherever they are made. -/
theorem code_of_diagnostic_at {place : Except Fault Location} {desc : Descriptor} {args : List String}
    {d : Diagnostic} (h : (place >>= fun location => pure (desc.diagnostic location args)) = .ok d) :
    d.code = desc.id := by
  cases place with
  | error e => cases h
  | ok location =>
      obtain rfl : desc.diagnostic location args = d := Except.ok.inj h
      rfl

/-! ## Questions -/

namespace Catalog

/-- **A coupling**, said all at once: the symbol of the access is a property of a class, and its receiver has
the type of an interface that the class implements. -/
theorem coupling?_eq_some_iff {m : Model} {access : Node} {k : Coupling} :
    coupling? m access = some k ↔
      m.symbol access = some k.property ∧ k.property.kind = .property ∧
      k.property.containingType = some k.container ∧ k.container.kind = .classType ∧
      ∃ receiver, access.receiver = some receiver ∧ m.type receiver = some k.interface ∧
        k.interface.kind = .interfaceType ∧ k.container.implements k.interface.id = true := by
  obtain ⟨property, container, interface⟩ := k
  simp only [coupling?, Option.bind_eq_bind, Option.bind_eq_some_iff, Option.bind_none, ne_eq,
    Option.ite_none_left_eq_some, Option.ite_none_right_eq_some, not_not, Option.pure_def, Option.some.injEq,
    Coupling.mk.injEq]
  constructor
  · rintro ⟨_, hsymbol, hkind, _, hcontainer, hclass, receiver, hreceiver, _, htype, hinterface, himplements,
      rfl, rfl, rfl⟩
    exact ⟨hsymbol, hkind, hcontainer, hclass, receiver, hreceiver, htype, hinterface, himplements⟩
  · rintro ⟨hsymbol, hkind, hcontainer, hclass, receiver, hreceiver, htype, hinterface, himplements⟩
    exact ⟨_, hsymbol, hkind, _, hcontainer, hclass, receiver, hreceiver, _, htype, hinterface, himplements,
      rfl, rfl, rfl⟩

/-- The references to entities in the bodies of a class, with repetitions. -/
def entityReferences (model : Model) (token : String) (cls : Node) : List Id :=
  (Metrics.methodBodies cls).flatMap fun (_, body) =>
    (body.descendants.filter (·.kind == .identifierName)).filterMap (entity? model token)

theorem length_eraseDups {α : Type} [DecidableEq α] (l : List α) : l.eraseDups.length = l.toFinset.card := by
  -- dropping the copies of the first element leaves a shorter list
  induction hn : l.length using Nat.strongRecOn generalizing l with
  | ind n ih =>
      cases l with
      | nil => rfl
      | cons a l =>
          have hlt : (l.filter fun b => !b == a).length < n := by
            have hle := List.length_filter_le (fun b => !b == a) l
            rw [List.length_cons] at hn
            omega
          have hset : (a :: l).toFinset = insert a (l.filter fun b => !b == a).toFinset := by
            ext b
            by_cases hb : b = a <;> simp [hb]
          have hnot : a ∉ (l.filter fun b => !b == a).toFinset := by simp
          rw [List.eraseDups_cons, List.length_cons, ih _ hlt _ rfl, hset, Finset.card_insert_of_notMem hnot]

/-- **Entities are counted as a set.** -/
theorem length_entities (model : Model) (token : String) (cls : Node) :
    (entities model token cls).length = (entityReferences model token cls).toFinset.card :=
  length_eraseDups _

end Catalog

section

variable {m m' : Model} (h : m.Within m')
include h

/-- A member that is known to carry an HTTP verb carries it, so some first member is found. -/
theorem Scan.exists_firstHttpMember? {type member : Node} (hm : firstHttpMember? m type = some member) :
    ∃ first, firstHttpMember? m' type = some first := by
  have hmember : member ∈ type.members := List.mem_of_find?_eq_some hm
  have hverb := List.find?_some hm
  rw [← Option.isSome_iff_exists]
  refine List.find?_isSome.mpr ⟨member, hmember, ?_⟩
  cases hdeclared : m.declared member with
  | none => rw [hdeclared] at hverb; cases hverb
  | some s => rwa [h.declared hdeclared, ← hdeclared]

theorem Scan.referencesDataAccess_of_within {member : Node} (hm : referencesDataAccess m member = true) :
    referencesDataAccess m' member = true := by
  unfold referencesDataAccess at hm ⊢
  rw [Bool.or_eq_true] at hm ⊢
  rcases hm with htype | hattribute
  -- a missing answer makes either test fail, so the answer was there and is there still
  · left
    cases hresolved : m.type member with
    | none => rw [hresolved] at htype; cases htype
    | some t => rwa [h.type hresolved, ← hresolved]
  · right
    cases hresolved : m.declared member with
    | none => rw [hresolved] at hattribute; cases hattribute
    | some s => rwa [h.declared hresolved, ← hresolved]

namespace Catalog

theorem any_referencesDataAccess_of_within {members : List Node}
    (hany : members.any (Scan.referencesDataAccess m) = true) :
    members.any (Scan.referencesDataAccess m') = true := by
  obtain ⟨member, hmember, hrefers⟩ := List.any_eq_true.mp hany
  exact List.any_eq_true.mpr ⟨member, hmember, Scan.referencesDataAccess_of_within h hrefers⟩

theorem excessiveLogic?_of_within {limit : Nat} {literal : Node} {found : String × Nat}
    (hfound : excessiveLogic? m limit literal = some found) :
    excessiveLogic? m' limit literal = some found := by
  simp only [excessiveLogic?, Option.bind_eq_bind, Option.bind_eq_some_iff] at hfound ⊢
  obtain ⟨constant, hconstant, hrest⟩ := hfound
  exact ⟨constant, h.constant hconstant, hrest⟩

theorem entity?_of_within {token : String} {identifier : Node} {id : Id}
    (hid : entity? m token identifier = some id) : entity? m' token identifier = some id := by
  simp only [entity?, Option.bind_eq_bind, Option.bind_eq_some_iff] at hid ⊢
  obtain ⟨s, hs, hrest⟩ := hid
  exact ⟨s, h.symbol hs, hrest⟩

/-- With more facts a class refers to at least as many entities. -/
theorem length_entities_le (token : String) (cls : Node) :
    (entities m token cls).length ≤ (entities m' token cls).length := by
  rw [length_entities, length_entities]
  apply Finset.card_le_card
  intro id hid
  rw [List.mem_toFinset] at hid ⊢
  obtain ⟨body, hbody, hid⟩ := List.mem_flatMap.mp hid
  obtain ⟨identifier, hidentifier, hentity⟩ := List.mem_filterMap.mp hid
  exact List.mem_flatMap.mpr ⟨body, hbody,
    List.mem_filterMap.mpr ⟨identifier, hidentifier, entity?_of_within h hentity⟩⟩

theorem coupling?_of_within {access : Node} {k : Coupling} (hk : coupling? m access = some k) :
    coupling? m' access = some k := by
  rw [coupling?_eq_some_iff] at hk ⊢
  obtain ⟨hsymbol, hkind, hcontainer, hclass, receiver, hreceiver, htype, hrest⟩ := hk
  exact ⟨h.symbol hsymbol, hkind, hcontainer, hclass, receiver, hreceiver, h.type htype, hrest⟩

end Catalog

end

/-! ## Rules -/

/-- **Resolving more loses no finding of the rule**: of each code it reports at least as many. -/
def Rule.Resolving (r : Rule) : Prop :=
  ∀ (c : NodeContext) (m : Model), c.model.Within m →
    Covers (fun _ => ()) (r.check c) (r.check (c.withModel m))

/-- A rule that asks nothing about symbols. -/
theorem Rule.resolving_of_check_eq {r : Rule} (h : ∀ c m, r.check (c.withModel m) = r.check c) :
    r.Resolving := by
  intro c m _
  rw [h c m]
  exact .refl _

namespace Catalog

/-- Checks that report the first member with an HTTP verb, of whatever members. -/
theorem covers_firstHttpMember {m m' : Model} (h : m.Within m') {type : Node}
    {report report' : Node → Except Fault (List Diagnostic)}
    (hreport : ∀ member first, Covers (fun _ => ()) (report member) (report' first)) :
    Covers (fun _ => ())
      (match Scan.firstHttpMember? m type with
      | some member => report member
      | none => pure [])
      (match Scan.firstHttpMember? m' type with
      | some first => report' first
      | none => pure []) := by
  cases hfound : Scan.firstHttpMember? m type with
  | none => exact .silent
  | some member =>
      obtain ⟨first, hfirst⟩ := Scan.exists_firstHttpMember? h hfound
      rw [hfirst]
      exact hreport member first

theorem modelController_resolving : modelController.Resolving := by
  intro c m h
  unfold modelController
  dsimp only
  refine .limited id (covers_firstHttpMember h fun _ _ => ?_)
  exact .bind fun _ _ => .ok (.cons rfl rfl (.nil []))

theorem viewController_resolving : viewController.Resolving := by
  intro c m h
  unfold viewController
  dsimp only
  refine .limited id (covers_firstHttpMember h fun _ _ => ?_)
  exact .bind fun _ _ => .ok (.cons rfl rfl (.nil []))

/-- The report of a data-access reference is still made when more is known. -/
theorem matched_dataAccess {m m' : Model} (h : m.Within m') {members : List Node} {ds : List Diagnostic}
    {d : Diagnostic} : Matched (fun _ => ())
      (ds ++ if members.any (Scan.referencesDataAccess m) then [d] else [])
      (ds ++ if members.any (Scan.referencesDataAccess m') then [d] else []) := by
  refine .append (.refl ds) ?_
  by_cases hany : members.any (Scan.referencesDataAccess m) = true
  · rw [if_pos hany, if_pos (any_referencesDataAccess_of_within h hany)]
    exact .refl [d]
  · rw [if_neg hany]
    exact .nil _

theorem viewModel_resolving : viewModel.Resolving := by
  intro c m h
  unfold viewModel
  dsimp only
  exact .limited id (.located fun location => .ok (matched_dataAccess h))

theorem controllerModel_resolving : controllerModel.Resolving := by
  intro c m h
  unfold controllerModel
  dsimp only
  exact .limited id (.located fun location => .ok (matched_dataAccess h))

theorem brainRepository_resolving : brainRepository.Resolving := by
  intro c m h
  unfold brainRepository
  dsimp only
  refine .limited id (.mapM ?_ ?_)
  · refine filterMap_sublist_filterMap fun literal found hfound => ?_
    obtain ⟨logic, hlogic, rfl⟩ := Option.map_eq_some_iff.mp hfound
    exact Option.map_eq_some_iff.mpr ⟨logic, excessiveLogic?_of_within h hlogic, rfl⟩
  · rintro ⟨literal, lowered, count⟩ d e hd he
    exact ⟨(code_of_diagnostic_at hd).trans (code_of_diagnostic_at he).symm, rfl⟩

theorem bigRepository_resolving : bigRepository.Resolving := by
  intro c m h
  unfold bigRepository
  dsimp only
  refine .limited id (.limited ?_ (.bind fun _ _ => .ok (.cons rfl rfl (.nil []))))
  exact fun hle => Nat.le_trans (length_entities_le h _ _) hle

theorem laboriousRepository_resolving : laboriousRepository.Resolving := by
  intro c m h
  unfold laboriousRepository
  dsimp only
  refine .limited id (.mapM (List.Sublist.refl _) ?_)
  rintro ⟨method, body⟩ d e hd he
  exact ⟨(code_of_diagnostic_at hd).trans (code_of_diagnostic_at he).symm, rfl⟩

theorem abstractionWithoutDecoupling_resolving : abstractionWithoutDecoupling.Resolving := by
  intro c m h
  unfold abstractionWithoutDecoupling
  dsimp only
  cases hk : coupling? c.model c.node with
  | none => exact .silent
  | some k =>
      have hk' : coupling? (c.withModel m).model (c.withModel m).node = some k := coupling?_of_within h hk
      rw [hk']
      exact .refl _

/-- **Resolving more loses no finding of a built-in rule.** -/
theorem resolving {r : Rule} (hr : r ∈ rules) : r.Resolving := by
  have hblind : ∀ r : Rule, (∀ c m, r.check (c.withModel m) = r.check c) → r.Resolving :=
    fun _ => Rule.resolving_of_check_eq
  simp only [rules, List.mem_cons, List.not_mem_nil, or_false] at hr
  rcases hr with rfl | rfl | rfl | rfl | rfl | rfl | rfl | rfl | rfl | rfl | rfl | rfl | rfl | rfl | rfl | rfl
  · exact hblind modelView fun _ _ => rfl
  · exact modelController_resolving
  · exact viewModel_resolving
  · exact viewController_resolving
  · exact hblind controllerView fun _ _ => check_controllerView_congr rfl rfl rfl
  · exact controllerModel_resolving
  · exact hblind controllerBrain fun _ _ => rfl
  · exact hblind promiscuousController fun _ _ => rfl
  · exact hblind meddlingService fun _ _ => rfl
  · exact brainRepository_resolving
  · exact bigRepository_resolving
  · exact laboriousRepository_resolving
  · exact abstractionWithoutDecoupling_resolving
  · exact hblind ambiguousInterface fun _ _ => rfl
  · exact hblind architectureViolation fun _ _ => rfl
  · exact hblind godClass fun _ _ => rfl

end Catalog

/-! ## Result -/

/-- With a host that knows all that another one knows, an analysis finds of every code at least as many. -/
theorem Setup.countP_le_of_within {s : Setup} (hrules : ∀ r ∈ s.rules, r ∈ Catalog.rules) {unit : CompilationUnit}
    {m m' : Model} (h : m.Within m') {ds es : List Diagnostic} (hds : s.analyzer.analyzeUnit unit m = .ok ds)
    (hes : s.analyzer.analyzeUnit unit m' = .ok es) (code : String) :
    ds.countP (fun d => d.code = code) ≤ es.countP (fun d => d.code = code) := by
  have hcovers : ∀ x ∈ s.dispatches unit.root, Covers (fun _ => ())
      (x.1.check (x.2.context ⟨unit, m, s.effectiveSettings⟩))
      (x.1.check (x.2.context ⟨unit, m', s.effectiveSettings⟩)) := by
    intro x hx
    have hrule : x.1 ∈ Catalog.rules := hrules _ (s.of_mem_dispatches hx).1
    exact Catalog.resolving hrule (x.2.context ⟨unit, m, s.effectiveSettings⟩) m' h
  exact Setup.countP_le_of_covers rfl rfl hds hes hcovers fun k => k.1 = code

/-- **A resolution miss adds no finding.** Let one symbol table hold all entries of another. If an analysis with
built-in rules finishes with both, it finds of every code at least as many with the larger one. -/
theorem resolution_miss_adds_nothing {s : Setup} (hrules : ∀ r ∈ s.rules, r ∈ Catalog.rules) {a : Analyzer}
    (hbuild : s.build = .ok a) (unit : CompilationUnit) {t u : SymbolTable} (h : t.Within u)
    {ds es : List Diagnostic} (hds : a.analyzeUnit unit t.model = .ok ds)
    (hes : a.analyzeUnit unit u.model = .ok es) (code : String) :
    ds.countP (fun d => d.code = code) ≤ es.countP (fun d => d.code = code) := by
  obtain ⟨-, rfl⟩ := s.build_eq_ok_iff.mp hbuild
  exact Setup.countP_le_of_within hrules h.model hds hes code

namespace Sample

/-- A view whose class has two methods. -/
def view : CompilationUnit where
  path := "Pedidos/Index.cshtml"
  root := .mk { kind := .compilationUnit }
    [.mk { kind := .classDecl, identifier := some "Pedido" }
      [.mk { id := 1, kind := .methodDecl, identifier := some "Ver" } [],
       .mk { id := 2, kind := .methodDecl, identifier := some "Guardar" } []]]

/-- A method with an HTTP verb. -/
def action (name verb : String) : Symbol where
  id := 7
  name
  kind := .method
  attributes := [{ className := verb }]

/-- Only the second method of the view is resolved. -/
def partlyResolved : SymbolTable where
  declarations := .ofList [(2, action "Guardar" "HttpPost")]

/-- Both methods of the view are resolved. -/
def resolved : SymbolTable where
  declarations := .ofList [(1, action "Ver" "HttpGet"), (2, action "Guardar" "HttpPost")]

end Sample

/-- Once the first method is resolved too it is reported in the stead of the second. -/
theorem resolution_miss_adds_nothing_sample :
    Sample.partlyResolved.Within Sample.resolved ∧
    ∃ a, Sample.catalog.build = .ok a ∧
    ∃ ds, a.analyzeUnit Sample.view Sample.partlyResolved.model = .ok ds ∧
    ∃ es, a.analyzeUnit Sample.view Sample.resolved.model = .ok es ∧
      ds.countP (fun d => d.code = "RA04-001") = 1 ∧
      ds.countP (fun d => d.code = "RA04-001") ≤ es.countP (fun d => d.code = "RA04-001") := by
  have hwithin : Sample.partlyResolved.Within Sample.resolved := by constructor <;> decide +kernel
  have hrules : ∀ r ∈ Sample.catalog.rules, r ∈ Catalog.rules := fun _ hr => hr
  have hpartly : ∀ c ∈ Sample.catalog.calls Sample.view Sample.partlyResolved.model, ∃ ds, c.run = .ok ds :=
    Call.exists_ok_of_all_isOk (by decide +kernel)
  have hfully : ∀ c ∈ Sample.catalog.calls Sample.view Sample.resolved.model, ∃ ds, c.run = .ok ds :=
    Call.exists_ok_of_all_isOk (by decide +kernel)
  have hds := Sample.catalog.analyzeUnit_of_all_ok hpartly
  have hes := Sample.catalog.analyzeUnit_of_all_ok hfully
  refine ⟨hwithin, _, Sample.build_catalog, _, hds, _, hes, ?_, ?_⟩
  · rw [Diagnostic.sort, (List.mergeSort_perm _ _).countP_eq]
    decide +kernel
  · exact resolution_miss_adds_nothing hrules Sample.build_catalog Sample.view hwithin hds hes "RA04-001"

end LayerLint
