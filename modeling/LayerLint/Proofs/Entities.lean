import LayerLint.Proofs.Reporting
import LayerLint.Proofs.Resolution
import Mathlib.Data.Set.Card

/-!
# `Proofs.Entities` — the entities of a repository are counted as a set

How many entities a class refers to is the number of ids that are reached from the bodies of its members. What
is reached is a set, so neither the order in which members and statements stand nor the number of times an
entity is mentioned matters, and as entities are told apart by id, neither does the name under which one is
mentioned, as long as it is the name of an entity.

## Contents
- **Depth.** `Node.Below`, what stands at any depth below a node.
- **Sets.** `Model.RefersTo`, `Node.entities`, and that the rule counts this set (`Node.ncard_entities`).
- **Rule.** `Limit.entities`, enforced by the rule.
- **Edits.** `Node.Restated` for bodies, `Node.Revised` for classes, `SymbolTable.Aliases` for names; none of
  them changes the set (`Node.Revised.entities_eq`, `SymbolTable.Aliases.entities_eq`).
- **Result.** `repository_breadth_exact`.
-/

namespace LayerLint

/-! ## Depth -/

namespace Node

/-- The first node stands below the second, at any depth. -/
inductive Below : Node → Node → Prop
  | child {t n : Node} : t ∈ n.children → Below t n
  | deeper {t c n : Node} : c ∈ n.children → Below t c → Below t n

/-- What stands below a node is a child of it or stands below a child. -/
theorem below_iff {t n : Node} : t.Below n ↔ ∃ c ∈ n.children, t = c ∨ t.Below c := by
  constructor
  · intro h
    cases h with
    | child ht => exact ⟨t, ht, .inl rfl⟩
    | deeper hc ht => exact ⟨_, hc, .inr ht⟩
  · rintro ⟨c, hc, rfl | ht⟩
    · exact .child hc
    · exact .deeper hc ht

mutual

theorem below_of_mem_preorder : ∀ {n t : Node}, t ∈ n.preorder → t = n ∨ t.Below n
  | mk info cs, t, ht => by
      rw [preorder, List.mem_cons] at ht
      exact ht.imp_right fun ht => below_iff.mpr (exists_below_of_mem_preorderAll ht)

theorem exists_below_of_mem_preorderAll : ∀ {ns : List Node} {t : Node}, t ∈ preorderAll ns →
    ∃ c ∈ ns, t = c ∨ t.Below c
  | [], _, ht => nomatch ht
  | n :: ns, t, ht => by
      rw [preorderAll, List.mem_append] at ht
      rcases ht with ht | ht
      · exact ⟨n, List.mem_cons_self, below_of_mem_preorder ht⟩
      · obtain ⟨c, hc, ht⟩ := exists_below_of_mem_preorderAll ht
        exact ⟨c, List.mem_cons_of_mem n hc, ht⟩

end

theorem Below.mem_preorder {t n : Node} (h : t.Below n) : t ∈ n.preorder := by
  induction h with
  | child ht => exact mem_preorder_of_child ht (mem_preorder_self _)
  | deeper hc _ ih => exact mem_preorder_of_child hc ih

/-- **The worklist reaches what stands below**, and nothing else. -/
theorem mem_descendants {t n : Node} : t ∈ n.descendants ↔ t.Below n := by
  rw [descendants_eq]
  constructor
  · intro ht
    exact below_iff.mpr (exists_below_of_mem_preorderAll ht)
  · intro ht
    obtain ⟨c, hc, ht⟩ := below_iff.mp ht
    refine mem_preorderAll.mpr ⟨c, hc, ?_⟩
    rcases ht with rfl | ht
    · exact mem_preorder_self t
    · exact ht.mem_preorder

end Node

/-! ## Sets -/

/-- **A reference to an entity**: an identifier that resolves to a named type whose name, in lower case, starts
with the token. -/
def Model.RefersTo (m : Model) (token : String) (t : Node) (id : Id) : Prop :=
  t.kind = .identifierName ∧
    ∃ s, m.symbol t = some s ∧ s.kind = .namedType ∧ startsWithToken s.name token ∧ s.id = id

theorem Catalog.entity?_eq_some_iff {m : Model} {token : String} {t : Node} {id : Id} :
    entity? m token t = some id ↔
      ∃ s, m.symbol t = some s ∧ s.kind = .namedType ∧ startsWithToken s.name token ∧ s.id = id := by
  simp only [entity?, Option.bind_eq_bind, Option.bind_eq_some_iff, Option.ite_none_right_eq_some,
    Option.pure_def, Option.some.injEq, Bool.and_eq_true, beq_iff_eq, and_assoc]

namespace Node

variable (m : Model) (token : String)

/-- What is referred to below a node. -/
def references (n : Node) : Set Id := {id | ∃ t : Node, t.Below n ∧ m.RefersTo token t id}

/-- What is referred to in the body of a member, if it is a method, a constructor or an operator. -/
def bodyReferences (member : Node) : Set Id :=
  {id | member.kind ∈ [Kind.methodDecl, .constructorDecl, .operatorDecl] ∧
    ∃ body, member.body = some body ∧ id ∈ body.references m token}

/-- **The entities of a class**: what is referred to in the bodies of its direct members. -/
def entities (cls : Node) : Set Id := {id | ∃ member ∈ cls.children, id ∈ member.bodyReferences m token}

theorem mem_entities {cls : Node} {id : Id} :
    id ∈ cls.entities m token ↔ ∃ member ∈ cls.children, id ∈ member.bodyReferences m token := Iff.rfl

end Node

theorem Kind.isMethodLike_iff {k : Kind} :
    k.isMethodLike = true ↔ k ∈ [methodDecl, constructorDecl, operatorDecl] := by
  cases k <;> decide

/-- The rule gathers the entities of a class. -/
theorem Catalog.mem_entityReferences {m : Model} {token : String} {cls : Node} {id : Id} :
    id ∈ entityReferences m token cls ↔ id ∈ cls.entities m token := by
  unfold entityReferences Metrics.methodBodies
  constructor
  · intro h
    obtain ⟨⟨member, body⟩, hbody, h⟩ := List.mem_flatMap.mp h
    obtain ⟨t, ht, hid⟩ := List.mem_filterMap.mp h
    obtain ⟨member', hmember, heq⟩ := List.mem_filterMap.mp hbody
    obtain ⟨hmember, hlike⟩ := List.mem_filter.mp hmember
    obtain ⟨body', hfirst, heq⟩ := Option.map_eq_some_iff.mp heq
    obtain ⟨rfl, rfl⟩ := Prod.mk.inj heq
    obtain ⟨ht, hkind⟩ := List.mem_filter.mp ht
    exact ⟨member', hmember, Kind.isMethodLike_iff.mp hlike, body', hfirst, t, Node.mem_descendants.mp ht,
      beq_iff_eq.mp hkind, entity?_eq_some_iff.mp hid⟩
  · rintro ⟨member, hmember, hlike, body, hfirst, t, ht, hkind, hid⟩
    refine List.mem_flatMap.mpr ⟨(member, body), List.mem_filterMap.mpr ⟨member, List.mem_filter.mpr
      ⟨hmember, Kind.isMethodLike_iff.mpr hlike⟩, by rw [hfirst]; rfl⟩, List.mem_filterMap.mpr ⟨t, ?_,
      entity?_eq_some_iff.mpr hid⟩⟩
    exact List.mem_filter.mpr ⟨Node.mem_descendants.mpr ht, beq_iff_eq.mpr hkind⟩

/-- **The rule counts the entities of a class as a set.** -/
theorem Node.ncard_entities (m : Model) (token : String) (cls : Node) :
    (cls.entities m token).ncard = (Catalog.entities m token cls).length := by
  have hset : cls.entities m token = ↑(Catalog.entityReferences m token cls).toFinset := by
    ext id
    rw [Finset.mem_coe, List.mem_toFinset, Catalog.mem_entityReferences]
  rw [hset, Set.ncard_coe_finset, Catalog.length_entities]

/-! ## Rule -/

/-- Entities of a class named like a repository. -/
noncomputable def Limit.entities : Limit where
  kind := .classDecl
  exceeded u n := containsToken n.name u.settings.vocabulary.repository ∧
    u.settings.thresholds.maxRepositoryEntities < (n.entities u.model u.settings.vocabulary.entity).ncard
  args u n := [Catalog.declaredName u.model n,
    toString (n.entities u.model u.settings.vocabulary.entity).ncard,
    toString u.settings.thresholds.maxRepositoryEntities]

theorem Catalog.entities_enforced : Limit.entities.EnforcedBy bigRepository tooManyEntities where
  kinds := rfl
  check {c} {ds} h := by
    unfold bigRepository at h
    dsimp only at h
    rw [← Node.ncard_entities, ite_layer] at h
    rw [← h, Limit.entities]
    simp only [decide_eq_true_eq, Nat.not_le]
    rfl

/-- What the rule says of a class depends on its payload, the name it is declared under and its entities. -/
theorem Limit.entities_congr {u u' : UnitContext} {n n' : Node} (hsettings : u'.settings = u.settings)
    (hinfo : n'.info = n.info) (hdeclared : Catalog.declaredName u'.model n' = Catalog.declaredName u.model n)
    (hentities : n'.entities u'.model u.settings.vocabulary.entity =
      n.entities u.model u.settings.vocabulary.entity) :
    entities.exceeded u' n' = entities.exceeded u n ∧ entities.issue u' n' = entities.issue u n := by
  have hname : n'.name = n.name := congrArg (fun i : NodeInfo => i.identifier.getD "") hinfo
  have hspan : n'.identifierSpan = n.identifierSpan :=
    congrArg (fun i : NodeInfo => i.identifierSpan.getD i.span) hinfo
  unfold entities issue
  dsimp only
  rw [hsettings, hname, hspan, hdeclared, hentities]
  exact ⟨rfl, rfl⟩

/-! ## Edits -/

/-- Something holds of an element of a list, told from one place in it. -/
theorem exists_mem_append_cons {α : Type} {before after : List α} {a : α} {p : α → Prop} :
    (∃ x ∈ before ++ a :: after, p x) ↔ p a ∨ ∃ x ∈ before ++ after, p x := by
  constructor
  · rintro ⟨x, hx, hp⟩
    rcases List.mem_append.mp hx with hx | hx
    · exact .inr ⟨x, List.mem_append_left _ hx, hp⟩
    · rcases List.mem_cons.mp hx with rfl | hx
      · exact .inl hp
      · exact .inr ⟨x, List.mem_append_right _ hx, hp⟩
  · rintro (hp | ⟨x, hx, hp⟩)
    · exact ⟨a, List.mem_append_right _ List.mem_cons_self, hp⟩
    · rcases List.mem_append.mp hx with hx | hx
      · exact ⟨x, List.mem_append_left _ hx, hp⟩
      · exact ⟨x, List.mem_append_right _ (List.mem_cons_of_mem a hx), hp⟩

namespace Node

section

variable (m : Model) (token : String)

/-- What is referred to by a node or below it. -/
def mentions (n : Node) : Set Id := {id | m.RefersTo token n id ∨ id ∈ n.references m token}

variable {m token}

theorem mem_references {n : Node} {id : Id} :
    id ∈ n.references m token ↔ ∃ c ∈ n.children, id ∈ c.mentions m token := by
  constructor
  · rintro ⟨t, ht, hid⟩
    obtain ⟨c, hc, rfl | ht⟩ := below_iff.mp ht
    · exact ⟨t, hc, .inl hid⟩
    · exact ⟨c, hc, .inr ⟨t, ht, hid⟩⟩
  · rintro ⟨c, hc, hid | ⟨t, ht, hid⟩⟩
    · exact ⟨c, .child hc, hid⟩
    · exact ⟨t, .deeper hc ht, hid⟩

end

section

variable (m : Model) (token : String) (known : Set Id)

/-- **A body restated**: statements at any depth stand in another order, and there are more of them, which
refer only to what is known. -/
inductive Restated : Node → Node → Prop
  | refl (n : Node) : Restated n n
  | trans {a b c : Node} : Restated a b → Restated b c → Restated a c
  | reorder {info : NodeInfo} {cs cs' : List Node} : cs.Perm cs' → Restated (mk info cs) (mk info cs')
  | addition {info : NodeInfo} {cs : List Node} {extra : Node} :
      extra.mentions m token ⊆ known → Restated (mk info cs) (mk info (extra :: cs))
  | inside {info : NodeInfo} {before after : List Node} {c c' : Node} : Restated c c' →
      Restated (mk info (before ++ c :: after)) (mk info (before ++ c' :: after))

/-- **A class revised**: its members stand in another order, and bodies of members, that is their first blocks,
are restated. -/
inductive Revised : Node → Node → Prop
  | refl (n : Node) : Revised n n
  | trans {a b c : Node} : Revised a b → Revised b c → Revised a c
  | reorder {info : NodeInfo} {ms ms' : List Node} : ms.Perm ms' → Revised (mk info ms) (mk info ms')
  | body {info member : NodeInfo} {before after front back : List Node} {block block' : Node} :
      (∀ c ∈ front, c.kind ≠ .block) → block.kind = .block → Restated m token known block block' →
      Revised (mk info (before ++ mk member (front ++ block :: back) :: after))
        (mk info (before ++ mk member (front ++ block' :: back) :: after))

end

end Node

/-- The same symbol, perhaps under another name, where both names start with the token. -/
structure Symbol.Alias (token : String) (s s' : Symbol) : Prop where
  id : s'.id = s.id
  kind : s'.kind = s.kind
  name : s'.name = s.name ∨ startsWithToken s.name token ∧ startsWithToken s'.name token

/-- **A table with aliases**: what is resolved is resolved to the same symbols, perhaps under other names. -/
structure SymbolTable.Aliases (token : String) (t t' : SymbolTable) : Prop where
  symbols : ∀ k, Option.Rel (Symbol.Alias token) (t.symbols.get? k) (t'.symbols.get? k)
  declarations : t'.declarations = t.declarations

/-- One reference under another name. -/
theorem SymbolTable.aliases_insert {token : String} {t : SymbolTable} {k : Id} {s s' : Symbol}
    (hs : t.symbols.get? k = some s) (h : s.Alias token s') :
    t.Aliases token { t with symbols := t.symbols.insert k s' } := by
  refine ⟨fun j => ?_, rfl⟩
  dsimp only
  rw [IdMap.get?_insert]
  by_cases hj : j = k
  · subst hj
    rw [if_pos rfl, hs]
    exact .some h
  · rw [if_neg hj]
    cases t.symbols.get? j with
    | none => exact .none
    | some r => exact .some ⟨rfl, rfl, .inl rfl⟩

section

variable {table table' : SymbolTable} {token : String} {known : Set Id}

/-- A table answers by the id, so what a node refers to does not depend on its children. -/
theorem SymbolTable.refersTo_congr {n n' : Node} (h : n'.info = n.info) (id : Id) :
    table.model.RefersTo token n' id ↔ table.model.RefersTo token n id := by
  have hkind : n'.kind = n.kind := congrArg NodeInfo.kind h
  have hid : n'.id = n.id := congrArg NodeInfo.id h
  unfold Model.RefersTo SymbolTable.model
  dsimp only
  rw [hkind, hid]

theorem SymbolTable.Aliases.refersTo_iff (h : table.Aliases token table') (n : Node) (id : Id) :
    table'.model.RefersTo token n id ↔ table.model.RefersTo token n id := by
  have hsymbol := h.symbols n.id
  unfold Model.RefersTo SymbolTable.model
  dsimp only
  cases hs : table.symbols.get? n.id with
  | none =>
      cases hs' : table'.symbols.get? n.id with
      | none => rfl
      | some s' => rw [hs, hs'] at hsymbol; nomatch hsymbol
  | some s =>
      cases hs' : table'.symbols.get? n.id with
      | none => rw [hs, hs'] at hsymbol; nomatch hsymbol
      | some s' =>
          rw [hs, hs'] at hsymbol
          cases hsymbol with
          | some hrel =>
              obtain ⟨hid, hkind, hname⟩ := hrel
              have hstarts : startsWithToken s'.name token = true ↔ startsWithToken s.name token = true := by
                rcases hname with hname | ⟨hold, hnew⟩
                · rw [hname]
                · exact ⟨fun _ => hold, fun _ => hnew⟩
              simp only [Option.some.injEq, exists_eq_left', hid, hkind, hstarts]

/-- **Aliases refer to the same entities.** -/
theorem SymbolTable.Aliases.entities_eq (h : table.Aliases token table') (cls : Node) :
    cls.entities table'.model token = cls.entities table.model token := by
  have hrefers : table'.model.RefersTo token = table.model.RefersTo token := by
    funext n id
    exact propext (h.refersTo_iff n id)
  unfold Node.entities Node.bodyReferences Node.references
  rw [hrefers]

namespace Node

theorem Restated.info_eq {n n' : Node} (h : Restated table.model token known n n') : n'.info = n.info := by
  induction h with
  | refl n => rfl
  | trans _ _ ih ih' => exact ih'.trans ih
  | reorder _ => rfl
  | addition _ => rfl
  | inside _ _ => rfl

/-- **A body that is restated refers to the same**, apart from what is known. -/
theorem Restated.references {n n' : Node} (h : Restated table.model token known n n') :
    n.references table.model token ⊆ n'.references table.model token ∧
      n'.references table.model token ⊆ n.references table.model token ∪ known := by
  induction h with
  | refl n => exact ⟨subset_rfl, Set.subset_union_left⟩
  | trans _ _ ih ih' =>
      refine ⟨ih.1.trans ih'.1, ih'.2.trans (Set.union_subset ih.2 Set.subset_union_right)⟩
  | @reorder info cs cs' hperm =>
      have hsame : ∀ id, id ∈ (mk info cs').references table.model token ↔
          id ∈ (mk info cs).references table.model token := by
        intro id
        simp only [mem_references, children_mk, hperm.mem_iff]
      exact ⟨fun id hid => (hsame id).mpr hid, fun id hid => .inl ((hsame id).mp hid)⟩
  | @addition info cs extra hextra =>
      constructor
      · intro id hid
        obtain ⟨c, hc, hid⟩ := mem_references.mp hid
        exact mem_references.mpr ⟨c, List.mem_cons_of_mem extra hc, hid⟩
      · intro id hid
        obtain ⟨c, hc, hmentions⟩ := mem_references.mp hid
        rcases List.mem_cons.mp hc with rfl | hc
        · exact .inr (hextra hmentions)
        · exact .inl (mem_references.mpr ⟨c, hc, hmentions⟩)
  | @inside info before after c c' hinner ih =>
      -- the restated node refers to what it referred to before, for it has kept its payload
      have hself : ∀ id, table.model.RefersTo token c' id ↔ table.model.RefersTo token c id :=
        SymbolTable.refersTo_congr hinner.info_eq
      constructor
      · intro id hid
        rw [mem_references, children_mk, exists_mem_append_cons] at hid ⊢
        rcases hid with (hid | hid) | hid
        · exact .inl (.inl ((hself id).mpr hid))
        · exact .inl (.inr (ih.1 hid))
        · exact .inr hid
      · intro id hid
        rw [mem_references, children_mk, exists_mem_append_cons] at hid
        rcases hid with (hid | hid) | hid
        · exact .inl (mem_references.mpr (exists_mem_append_cons.mpr (.inl (.inl ((hself id).mp hid)))))
        · rcases ih.2 hid with hid | hid
          · exact .inl (mem_references.mpr (exists_mem_append_cons.mpr (.inl (.inr hid))))
          · exact .inr hid
        · exact .inl (mem_references.mpr (exists_mem_append_cons.mpr (.inr hid)))

theorem body_mk {member : NodeInfo} {front back : List Node} {block : Node}
    (hfront : ∀ c ∈ front, c.kind ≠ .block) (hblock : block.kind = .block) :
    (mk member (front ++ block :: back)).body = some block := by
  have hnone : front.find? (·.kind == .block) = none :=
    List.find?_eq_none.mpr fun c hc => by simpa using hfront c hc
  rw [body, children_mk, List.find?_append, hnone, List.find?_cons, beq_iff_eq.mpr hblock]
  rfl

theorem Revised.info_eq {cls cls' : Node} (h : Revised table.model token known cls cls') :
    cls'.info = cls.info := by
  induction h with
  | refl n => rfl
  | trans _ _ ih ih' => exact ih'.trans ih
  | reorder _ => rfl
  | body _ _ _ => rfl

theorem Revised.entities {cls cls' : Node} (h : Revised table.model token known cls cls') :
    cls.entities table.model token ⊆ cls'.entities table.model token ∧
      cls'.entities table.model token ⊆ cls.entities table.model token ∪ known := by
  induction h with
  | refl n => exact ⟨subset_rfl, Set.subset_union_left⟩
  | trans _ _ ih ih' =>
      refine ⟨ih.1.trans ih'.1, ih'.2.trans (Set.union_subset ih.2 Set.subset_union_right)⟩
  | @reorder info ms ms' hperm =>
      have hsame : ∀ id, id ∈ (mk info ms').entities table.model token ↔
          id ∈ (mk info ms).entities table.model token := by
        intro id
        simp only [mem_entities, children_mk, hperm.mem_iff]
      exact ⟨fun id hid => (hsame id).mpr hid, fun id hid => .inl ((hsame id).mp hid)⟩
  | @body info member before after front back block block' hfront hblock hrestated =>
      have hblock' : block'.kind = .block := (congrArg NodeInfo.kind hrestated.info_eq).trans hblock
      have hbody : (mk member (front ++ block :: back)).body = some block := body_mk hfront hblock
      have hbody' : (mk member (front ++ block' :: back)).body = some block' := body_mk hfront hblock'
      obtain ⟨hold, hnew⟩ := hrestated.references
      constructor
      · intro id hid
        rw [mem_entities, children_mk, exists_mem_append_cons] at hid ⊢
        rcases hid with ⟨hkind, b, hb, hid⟩ | hid
        · obtain rfl : block = b := Option.some.inj (hbody.symm.trans hb)
          exact .inl ⟨hkind, block', hbody', hold hid⟩
        · exact .inr hid
      · intro id hid
        rw [mem_entities, children_mk, exists_mem_append_cons] at hid
        rcases hid with ⟨hkind, b, hb, hid⟩ | hid
        · obtain rfl : block' = b := Option.some.inj (hbody'.symm.trans hb)
          rcases hnew hid with hid | hid
          · exact .inl (exists_mem_append_cons.mpr (.inl ⟨hkind, block, hbody, hid⟩))
          · exact .inr hid
        · exact .inl (exists_mem_append_cons.mpr (.inr hid))

/-- **A class that is revised has the same entities**, if what is added refers to its entities only. -/
theorem Revised.entities_eq {cls cls' : Node}
    (h : Revised table.model token (cls.entities table.model token) cls cls') :
    cls'.entities table.model token = cls.entities table.model token := by
  obtain ⟨hold, hnew⟩ := h.entities
  exact (hnew.trans (Set.union_self _).subset).antisymm hold

end Node

end

/-! ## Result -/

/-- **The breadth of repositories is judged exactly.** In an analysis of a unit with the built-in rules, the
findings of this kind report, one by one, the classes at any depth that are named like a repository and have more
entities than the limit, each with the number of its entities. What is said of a class, in whatever unit it stands,
stays the same if it is revised, where added statements may refer to its entities once more, and if its entities
are resolved under other names of entities. -/
theorem repository_breadth_exact {s : Setup} (hrules : s.rules = Catalog.rules) {a : Analyzer}
    (hbuild : s.build = .ok a) {unit : CompilationUnit} {table : SymbolTable} {ds : List Diagnostic}
    (hds : a.analyzeUnit unit table.model = .ok ds) :
    let u := s.unitContext unit table.model
    let token := u.settings.vocabulary.entity
    s.Reports u Catalog.tooManyEntities (Limit.entities.issues u) ds ∧
      ∀ (cls cls' : Node) (unit' : CompilationUnit) (table' : SymbolTable),
        Node.Revised table.model token (cls.entities table.model token) cls cls' →
        table.Aliases token table' →
        let u' := s.unitContext unit' table'.model
        cls'.entities table'.model token = cls.entities table.model token ∧
          Limit.entities.exceeded u' cls' = Limit.entities.exceeded u cls ∧
          Limit.entities.issue u' cls' = Limit.entities.issue u cls := by
  obtain ⟨-, rfl⟩ := s.build_eq_ok_iff.mp hbuild
  intro u token
  refine ⟨Setup.reports_limit hrules (by simp [Catalog.rules]) (List.mem_singleton.mpr rfl)
    Catalog.entities_enforced hds, ?_⟩
  intro cls cls' unit' table' hrevised haliases u'
  have hinfo : cls'.info = cls.info := hrevised.info_eq
  have hentities : cls'.entities table'.model token = cls.entities table.model token :=
    (haliases.entities_eq cls').trans hrevised.entities_eq
  have hid : cls'.id = cls.id := congrArg NodeInfo.id hinfo
  have hname : cls'.name = cls.name := congrArg (fun i : NodeInfo => i.identifier.getD "") hinfo
  have hdeclared : Catalog.declaredName table'.model cls' = Catalog.declaredName table.model cls := by
    unfold Catalog.declaredName SymbolTable.model
    dsimp only
    rw [haliases.declarations, hid, hname]
  exact ⟨hentities, Limit.entities_congr rfl hinfo hdeclared hentities⟩

namespace Sample

/-- A type with the name of an entity. -/
def entity (id : Id) (name : String) : Symbol where
  id
  name
  kind := .namedType

/-- Four entities, of which the first is known under two names. -/
def entityTable : SymbolTable where
  symbols := .ofList [(1, entity 11 "TblCliente"), (2, entity 12 "TblPedido"), (3, entity 13 "TblDetalle"),
    (4, entity 14 "TblPago"), (5, entity 11 "TblPersona")]

/-- The same with another name for the second entity. -/
def renamedTable : SymbolTable :=
  { entityTable with symbols := entityTable.symbols.insert 2 (entity 12 "TblOrden") }

/-- A mention of what a table has under an id. -/
def mention (id : Id) : Node := (Node.leaf .identifierName).withId id

/-- A method that mentions some things. -/
def loader (ids : List Id) : Node := .mk { kind := .methodDecl } [.mk { kind := .block } (ids.map mention)]

/-- A repository with some methods. -/
def dataAccess (methods : List Node) : Node :=
  .mk { kind := .classDecl, identifier := some "PedidoAlmacen", span := .lines 1 9 } methods

/-- Two methods that mention the entities of the first table. -/
def broad : Node := dataAccess [loader [1, 2, 5], loader [3, 4]]

/-- The second method stands first and mentions one entity again. -/
def broadRevised : Node := dataAccess [loader [3, 3, 4], loader [1, 2, 5]]

/-- A unit with one class. -/
def dataAccessUnit (cls : Node) : CompilationUnit where
  path := "PedidoAlmacen.cs"
  root := .mk { kind := .compilationUnit } [cls]

theorem ncard_entities_broad : (broad.entities entityTable.model "tbl").ncard = 4 := by
  rw [Node.ncard_entities]
  decide +kernel

theorem token_house : house.effectiveSettings.vocabulary.entity = "tbl" := by decide +kernel

/-- The repository exceeds the limit of two. -/
theorem exceeded_broad :
    Limit.entities.exceeded (house.unitContext (dataAccessUnit broad) entityTable.model) broad = true := by
  refine decide_eq_true ⟨by decide +kernel, ?_⟩
  show 2 < (broad.entities entityTable.model house.effectiveSettings.vocabulary.entity).ncard
  rw [token_house, ncard_entities_broad]
  decide

theorem issue_broad :
    Limit.entities.issue (house.unitContext (dataAccessUnit broad) entityTable.model) broad =
      ⟨.lines 1 9, ["PedidoAlmacen", "4", "2"]⟩ := by
  show Issue.mk (.lines 1 9) ["PedidoAlmacen",
    toString (broad.entities entityTable.model house.effectiveSettings.vocabulary.entity).ncard, "2"] = _
  rw [token_house, ncard_entities_broad]
  rfl

theorem mentions_mention : (mention 3).mentions entityTable.model "tbl" ⊆ {13} := by
  rintro id (⟨-, s, hs, -, -, rfl⟩ | hid)
  · have hsymbol : entityTable.model.symbol (mention 3) = some (entity 13 "TblDetalle") := by decide +kernel
    rw [hsymbol] at hs
    obtain rfl := Option.some.inj hs
    rfl
  · obtain ⟨c, hc, -⟩ := Node.mem_references.mp hid
    nomatch hc

theorem revised_broad {known : Set Id} (h : 13 ∈ known) :
    Node.Revised entityTable.model "tbl" known broad broadRevised := by
  have hextra : (mention 3).mentions entityTable.model "tbl" ⊆ known :=
    mentions_mention.trans (Set.singleton_subset_iff.mpr h)
  have hbody : Node.Revised entityTable.model "tbl" known
      (dataAccess ([] ++ .mk { kind := .methodDecl } ([] ++ .mk { kind := .block } ([3, 4].map mention) :: []) ::
        [loader [1, 2, 5]]))
      broadRevised :=
    .body (List.forall_mem_nil _) rfl (.addition hextra)
  exact .trans (.reorder (.swap _ _ _)) hbody

/-- What is said of the repository. -/
def tooBroad : Diagnostic :=
  issued Catalog.tooManyEntities "PedidoAlmacen.cs" 1 1 "Repository 'PedidoAlmacen' manages 4 entities (limit 2)"

end Sample

/-- Four entities under five names are reported, and reported alike once the methods have changed places, one
entity is mentioned twice and one has another name. -/
theorem repository_breadth_exact_sample :
    Sample.house.build = .ok Sample.house.analyzer ∧
    ∃ ds ds',
      Sample.house.analyzer.analyzeUnit (Sample.dataAccessUnit Sample.broad) Sample.entityTable.model = .ok ds ∧
      Sample.house.analyzer.analyzeUnit (Sample.dataAccessUnit Sample.broadRevised) Sample.renamedTable.model =
        .ok ds' ∧
      ds.filter (·.code == "RA11-001") = [Sample.tooBroad] ∧
      (Sample.broadRevised.entities Sample.renamedTable.model "tbl").ncard = 4 ∧
      ds'.filter (·.code == "RA11-001") = [Sample.tooBroad] := by
  have hall : ∀ c ∈ Sample.house.calls (Sample.dataAccessUnit Sample.broad) Sample.entityTable.model,
      ∃ ds, c.run = .ok ds := Call.exists_ok_of_all_isOk (by decide +kernel)
  have hall' : ∀ c ∈ Sample.house.calls (Sample.dataAccessUnit Sample.broadRevised) Sample.renamedTable.model,
      ∃ ds, c.run = .ok ds := Call.exists_ok_of_all_isOk (by decide +kernel)
  have hds := Sample.house.analyzeUnit_of_all_ok hall
  have hds' := Sample.house.analyzeUnit_of_all_ok hall'
  have hactive : Sample.house.activates Catalog.tooManyEntities = true := by decide +kernel
  obtain ⟨hreports, hedits⟩ := repository_breadth_exact rfl Sample.build_house hds
  obtain ⟨hreports', -⟩ := repository_breadth_exact rfl Sample.build_house hds'
  have htoken : (Sample.house.unitContext (Sample.dataAccessUnit Sample.broad)
      Sample.entityTable.model).settings.vocabulary.entity = "tbl" := Sample.token_house
  rw [htoken] at hedits
  have haliases : Sample.entityTable.Aliases "tbl" Sample.renamedTable :=
    SymbolTable.aliases_insert (s := Sample.entity 12 "TblPedido") (by decide +kernel)
      ⟨rfl, rfl, .inr (by decide +kernel)⟩
  have hknown : (13 : Id) ∈ Sample.broad.entities Sample.entityTable.model "tbl" := by
    rw [← Catalog.mem_entityReferences]
    decide +kernel
  obtain ⟨hentities, hexceeded, hissue⟩ :=
    hedits _ _ (Sample.dataAccessUnit Sample.broadRevised) _ (Sample.revised_broad hknown) haliases
  rw [Sample.exceeded_broad] at hexceeded
  rw [Sample.issue_broad] at hissue
  rw [Limit.issues_of_one (n := Sample.broad) rfl, Sample.exceeded_broad, if_pos rfl, Sample.issue_broad] at hreports
  rw [Limit.issues_of_one (n := Sample.broadRevised) rfl, hexceeded, if_pos rfl, hissue] at hreports'
  refine ⟨Sample.build_house, _, _, hds, hds', ?_, ?_, ?_⟩
  · exact hreports.filter_eq hactive (by decide +kernel) (List.pairwise_singleton _ _)
  · rw [hentities, Sample.ncard_entities_broad]
  · exact hreports'.filter_eq hactive (by decide +kernel) (List.pairwise_singleton _ _)

end LayerLint
