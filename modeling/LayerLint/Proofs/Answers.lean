import LayerLint.Proofs.Calls
import LayerLint.Proofs.Messages

/-!
# `Proofs.Answers` — what the built-in rules can answer

A check of a built-in rule answers with findings of the rule's own kinds, each with all the arguments its
message asks for, and each at a node it may point at; or it fails, and then because lines of a class could
not be counted or because a place could not be computed. This is shown rule by rule (`Catalog.answersAlways`)
from laws for the few ways in which checks are put together.

## Contents
- **Sites.** `Node.Site`, the nodes a check may point at; they are nodes of the tree.
- **Answers.** `Reported`, `Fails`, `Answers` and their laws.
- **Rules.** One lemma for each built-in rule, and `Catalog.answersAlways`.
- **Calls.** `Setup.of_mem_calls`: what a call is made on.
-/

namespace LayerLint

/-! ## Sites -/

namespace Node

/-- The nodes of which a check on `n` may report the place: `n` itself, its direct members, and the
literals inside the bodies of its methods. -/
inductive Site (n : Node) : Node → Prop where
  | self : Site n n
  | member {m : Node} : m ∈ n.members → Site n m
  | literal {m body t : Node} : m ∈ n.members → m.kind.isMethodLike = true → m.body = some body →
      t ∈ body.descendants → t.kind = .literal → Site n t

/-- The spans of a node: its own, and that of its identifier if it is known. -/
def spans (n : Node) : List Span := n.span :: n.info.identifierSpan.toList

theorem span_mem_spans (n : Node) : n.span ∈ n.spans := List.mem_cons_self

theorem identifierSpan_mem_spans (n : Node) : n.identifierSpan ∈ n.spans := by
  unfold identifierSpan spans
  cases n.info.identifierSpan with
  | none => exact List.mem_cons_self
  | some s => exact List.mem_cons_of_mem _ List.mem_cons_self

theorem mem_preorder_self (n : Node) : n ∈ n.preorder := by
  rw [preorder_eq]
  exact List.mem_cons_self

theorem mem_preorderAll {t : Node} {ns : List Node} : t ∈ preorderAll ns ↔ ∃ n ∈ ns, t ∈ n.preorder := by
  induction ns with
  | nil => simp [preorderAll]
  | cons n ns ih => simp [preorderAll, ih]

theorem mem_preorder_of_child {n c t : Node} (hc : c ∈ n.children) (ht : t ∈ c.preorder) :
    t ∈ n.preorder := by
  rw [preorder_eq]
  exact List.mem_cons_of_mem _ (mem_preorderAll.mpr ⟨c, hc, ht⟩)

/-- A check points at nodes of the tree below the one it is called on. -/
theorem Site.mem_preorder {n t : Node} (h : Site n t) : t ∈ n.preorder := by
  cases h with
  | self => exact mem_preorder_self n
  | member hm => exact mem_preorder_of_child hm (mem_preorder_self _)
  | @literal m body _ hm _ hbody ht _ =>
      have hchild : body ∈ m.children := List.mem_of_find?_eq_some hbody
      rw [descendants_eq, mem_preorderAll] at ht
      obtain ⟨c, hc, ht⟩ := ht
      exact mem_preorder_of_child hm (mem_preorder_of_child hchild (mem_preorder_of_child hc ht))

mutual

/-- What is below a node of a tree is in the tree. -/
theorem preorder_trans : ∀ {root n t : Node}, n ∈ root.preorder → t ∈ n.preorder → t ∈ root.preorder
  | mk info cs, n, t, hn, ht => by
      rw [preorder, List.mem_cons] at hn
      rcases hn with rfl | hn
      · exact ht
      · rw [preorder]
        exact List.mem_cons_of_mem _ (preorderAll_trans hn ht)

theorem preorderAll_trans : ∀ {ns : List Node} {n t : Node}, n ∈ preorderAll ns → t ∈ n.preorder →
    t ∈ preorderAll ns
  | [], _, _, hn, _ => nomatch hn
  | first :: ns, n, t, hn, ht => by
      rw [preorderAll, List.mem_append] at hn ⊢
      exact hn.imp (preorder_trans · ht) (preorderAll_trans · ht)

end

mutual

/-- The nodes that occur in a tree are its nodes in pre-order. -/
theorem map_node_occurrences : ∀ n : Node, n.occurrences.map (·.node) = n.preorder
  | mk info cs => by
      rw [occurrences_mk, preorder, List.map_cons, List.map_flatMap, ← flatMap_node_occurrences cs]
      congr 2
      funext c
      rw [List.map_map]
      rfl

theorem flatMap_node_occurrences : ∀ ns : List Node,
    (ns.flatMap fun n => n.occurrences.map (·.node)) = preorderAll ns
  | [] => rfl
  | n :: ns => by rw [List.flatMap_cons, preorderAll, map_node_occurrences n, flatMap_node_occurrences ns]

end

theorem mem_preorder_of_occurrence {root : Node} {o : Occurrence} (h : o ∈ root.occurrences) :
    o.node ∈ root.preorder :=
  map_node_occurrences root ▸ List.mem_map_of_mem h

end Node

/-! ## Answers -/

/-- **The finding is reported properly**: it is of one of the kinds, with all the arguments that the
message asks for, at the place of a node that may be pointed at. -/
def Reported (kinds : List Descriptor) (c : NodeContext) (d : Diagnostic) : Prop :=
  ∃ desc ∈ kinds, ∃ (args : List String) (location : Location) (t : Node), ∃ span ∈ t.spans,
    c.node.Site t ∧ c.unit.location span = .ok location ∧
      Message.answeredBy args.length 0 desc.message.toList = true ∧ d = desc.diagnostic location args

/-- The check fails because a place that it reports cannot be computed, or because the lines of a class
cannot be counted. -/
def Fails (kinds : List Kind) (c : NodeContext) (e : Fault) : Prop :=
  (∃ t, ∃ span ∈ t.spans, c.node.Site t ∧ c.unit.location span = .error e) ∨
    (kinds = [.classDecl] ∧ c.node.span.lineCount = .error e)

/-- **What a check may answer** if its rule reports the given kinds of findings and is dispatched on the
given kinds of nodes. -/
inductive Answers (descriptors : List Descriptor) (kinds : List Kind) (c : NodeContext) :
    Except Fault (List Diagnostic) → Prop where
  | ok {ds : List Diagnostic} : (∀ d ∈ ds, Reported descriptors c d) → Answers descriptors kinds c (.ok ds)
  | error {e : Fault} : Fails kinds c e → Answers descriptors kinds c (.error e)

/-- Findings of the given kinds are reported properly at the place, if they have their arguments. -/
def ReportsAt (descriptors : List Descriptor) (c : NodeContext) (location : Location) : Prop :=
  ∀ {desc : Descriptor} {args : List String}, desc ∈ descriptors →
    Message.answeredBy args.length 0 desc.message.toList = true →
    Reported descriptors c (desc.diagnostic location args)

namespace Answers

variable {descriptors : List Descriptor} {kinds : List Kind} {c : NodeContext}

theorem reported {ds : List Diagnostic} (h : Answers descriptors kinds c (.ok ds)) :
    ∀ d ∈ ds, Reported descriptors c d := by
  cases h with
  | ok h => exact h

theorem fails {e : Fault} (h : Answers descriptors kinds c (.error e)) : Fails kinds c e := by
  cases h with
  | error h => exact h

theorem nil : Answers descriptors kinds c (pure []) := .ok nofun

theorem one {d : Diagnostic} (h : Reported descriptors c d) : Answers descriptors kinds c (pure [d]) := by
  refine .ok fun d' hd' => ?_
  obtain rfl := List.mem_singleton.mp hd'
  exact h

theorem append {ds es : List Diagnostic} (hds : Answers descriptors kinds c (pure ds))
    (hes : Answers descriptors kinds c (pure es)) : Answers descriptors kinds c (pure (ds ++ es)) :=
  .ok (List.forall_mem_append.mpr ⟨hds.reported, hes.reported⟩)

theorem map {α : Type} {xs : List α} {f : α → Diagnostic} (h : ∀ x, Reported descriptors c (f x)) :
    Answers descriptors kinds c (pure (xs.map f)) := by
  refine .ok fun d hd => ?_
  obtain ⟨x, -, rfl⟩ := List.mem_map.mp hd
  exact h x

/-- A finding that is made under a condition. -/
theorem oneIf {p : Prop} [Decidable p] {d : Diagnostic} (h : Reported descriptors c d) :
    Answers descriptors kinds c (pure (if p then [d] else [])) := by
  split
  · exact one h
  · exact nil

/-- A check that has nothing to say in one case. -/
theorem guarded {p : Prop} [Decidable p] {next : Except Fault (List Diagnostic)}
    (h : Answers descriptors kinds c next) : Answers descriptors kinds c (if p then pure [] else next) := by
  split
  · exact nil
  · exact h

/-- A check that computes the place of a node goes on with it. -/
theorem located {t : Node} {span : Span} {next : Location → Except Fault (List Diagnostic)}
    (hspan : span ∈ t.spans) (hsite : c.node.Site t)
    (hnext : ∀ location, ReportsAt descriptors c location → Answers descriptors kinds c (next location)) :
    Answers descriptors kinds c (c.unit.location span >>= next) := by
  cases hlocation : c.unit.location span with
  | error e => exact .error (.inl ⟨t, span, hspan, hsite, hlocation⟩)
  | ok location =>
      refine hnext location fun {desc args} hdesc hargs => ?_
      exact ⟨desc, hdesc, args, location, t, span, hspan, hsite, hlocation, hargs, rfl⟩

/-- The place of a node as a whole. -/
theorem node {t : Node} {next : Location → Except Fault (List Diagnostic)} (hsite : c.node.Site t)
    (hnext : ∀ location, ReportsAt descriptors c location → Answers descriptors kinds c (next location)) :
    Answers descriptors kinds c (c.nodeLocation t >>= next) :=
  located t.span_mem_spans hsite hnext

/-- The place most checks report: the identifier of the node they are called on. -/
theorem identifier {next : Location → Except Fault (List Diagnostic)}
    (hnext : ∀ location, ReportsAt descriptors c location → Answers descriptors kinds c (next location)) :
    Answers descriptors kinds c (c.identifierLocation c.node >>= next) :=
  located c.node.identifierSpan_mem_spans .self hnext

/-- A check that makes one finding of each of some things, at a place that it computes for it. -/
theorem mapM {α : Type} {xs : List α} {found : α → Except Fault Diagnostic}
    (h : ∀ x ∈ xs, ∃ t, ∃ span ∈ t.spans, ∃ desc ∈ descriptors, ∃ args : List String, c.node.Site t ∧
      found x = (c.unit.location span >>= fun location => pure (desc.diagnostic location args)) ∧
      Message.answeredBy args.length 0 desc.message.toList = true) :
    Answers descriptors kinds c (xs.mapM found) := by
  induction xs with
  | nil => exact nil
  | cons x xs ih =>
      obtain ⟨hx, hxs⟩ := List.forall_mem_cons.mp h
      obtain ⟨t, span, hspan, desc, hdesc, args, hsite, hfound, hargs⟩ := hx
      rw [List.mapM_cons, hfound, bind_assoc]
      refine located hspan hsite fun location report => ?_
      rw [pure_bind]
      have hrest := ih hxs
      -- the first place that fails ends the whole check
      cases hfounds : xs.mapM found with
      | error e =>
          rw [hfounds] at hrest
          exact .error hrest.fails
      | ok ds =>
          rw [hfounds] at hrest
          exact .ok (List.forall_mem_cons.mpr ⟨report hdesc hargs, hrest.reported⟩)

/-- A check that counts the lines of a class first. -/
theorem lineCount {next : Nat → Except Fault (List Diagnostic)}
    (hnext : ∀ lines, Answers descriptors [.classDecl] c (next lines)) :
    Answers descriptors [.classDecl] c (c.node.span.lineCount >>= next) := by
  cases hlines : c.node.span.lineCount with
  | error e => exact .error (.inr ⟨rfl, hlines⟩)
  | ok lines => exact hnext lines

end Answers

/-- **The rule answers properly**, whatever it is called on. -/
def Rule.AnswersAlways (r : Rule) : Prop :=
  ∀ c : NodeContext, Answers r.descriptors r.kinds c (r.check c)

/-! ## Rules -/

namespace Catalog

open Message (answeredBy_ofList)

theorem modelView_answers : modelView.AnswersAlways := by
  intro c
  unfold modelView
  dsimp only
  refine .guarded (.identifier fun _ report => .append (.map fun tag => ?_) (.map fun command => ?_))
  · exact report (.head _) (answeredBy_ofList rfl)
  · exact report (.tail _ (.head _)) (answeredBy_ofList rfl)

/-- The member with an HTTP verb is a direct member of the class. -/
theorem site_of_firstHttpMember? {model : Model} {n m : Node} (h : Scan.firstHttpMember? model n = some m) :
    n.Site m :=
  .member (List.mem_of_find?_eq_some h)

theorem modelController_answers : modelController.AnswersAlways := by
  intro c
  unfold modelController
  dsimp only
  refine .guarded ?_
  split
  · next hm =>
      exact .node (site_of_firstHttpMember? hm) fun _ report =>
        .one (report (.head _) (answeredBy_ofList rfl))
  · exact .nil

theorem viewModel_answers : viewModel.AnswersAlways := by
  intro c
  unfold viewModel
  dsimp only
  refine .guarded (.identifier fun _ report => .append (.map fun command => ?_) (.oneIf ?_))
  · exact report (.head _) (answeredBy_ofList rfl)
  · exact report (.tail _ (.head _)) (answeredBy_ofList rfl)

theorem viewController_answers : viewController.AnswersAlways := by
  intro c
  unfold viewController
  dsimp only
  refine .guarded ?_
  split
  · next hm =>
      exact .node (site_of_firstHttpMember? hm) fun _ report =>
        .one (report (.head _) (answeredBy_ofList rfl))
  · exact .nil

theorem controllerView_answers : controllerView.AnswersAlways := by
  intro c
  unfold controllerView
  dsimp only
  refine .guarded ?_
  split
  · exact .identifier fun _ report => .one (report (.head _) (answeredBy_ofList rfl))
  · exact .nil

theorem controllerModel_answers : controllerModel.AnswersAlways := by
  intro c
  unfold controllerModel
  dsimp only
  refine .guarded (.identifier fun _ report => .append (.map fun command => ?_) (.oneIf ?_))
  · exact report (.head _) (answeredBy_ofList rfl)
  · exact report (.tail _ (.head _)) (answeredBy_ofList rfl)

theorem controllerBrain_answers : controllerBrain.AnswersAlways := by
  intro c
  unfold controllerBrain
  dsimp only
  exact .guarded (.guarded (.identifier fun _ report => .one (report (.head _) (answeredBy_ofList rfl))))

theorem promiscuousController_answers : promiscuousController.AnswersAlways := by
  intro c
  unfold promiscuousController
  dsimp only
  exact .guarded (.guarded (.identifier fun _ report => .one (report (.head _) (answeredBy_ofList rfl))))

theorem meddlingService_answers : meddlingService.AnswersAlways := by
  intro c
  unfold meddlingService
  dsimp only
  refine .guarded (.identifier fun _ report => .append (.map fun command => ?_) (.map fun library => ?_))
  · exact report (.head _) (answeredBy_ofList rfl)
  · exact report (.tail _ (.head _)) (answeredBy_ofList rfl)

theorem site_of_mem_bodyLiterals {n t : Node} (h : t ∈ bodyLiterals n) : n.Site t := by
  obtain ⟨⟨m, body⟩, hbody, ht⟩ := List.mem_flatMap.mp h
  obtain ⟨m', hm', heq⟩ := List.mem_filterMap.mp hbody
  obtain ⟨hmember, hkind⟩ := List.mem_filter.mp hm'
  obtain ⟨b, hb, heq⟩ := Option.map_eq_some_iff.mp heq
  obtain ⟨rfl, rfl⟩ := Prod.mk.inj heq
  obtain ⟨ht, hliteral⟩ := List.mem_filter.mp ht
  exact .literal hmember hkind hb ht (beq_iff_eq.mp hliteral)

theorem brainRepository_answers : brainRepository.AnswersAlways := by
  intro c
  unfold brainRepository
  dsimp only
  refine .guarded (.mapM ?_)
  rintro ⟨literal, lowered, count⟩ hfound
  obtain ⟨t, ht, heq⟩ := List.mem_filterMap.mp hfound
  obtain ⟨logic, -, heq⟩ := Option.map_eq_some_iff.mp heq
  obtain ⟨rfl, -⟩ := Prod.mk.inj heq
  exact ⟨t, _, t.span_mem_spans, complexQueryLogic, .head _, _, site_of_mem_bodyLiterals ht, rfl,
    answeredBy_ofList rfl⟩

theorem bigRepository_answers : bigRepository.AnswersAlways := by
  intro c
  unfold bigRepository
  dsimp only
  exact .guarded (.guarded (.identifier fun _ report => .one (report (.head _) (answeredBy_ofList rfl))))

theorem laboriousRepository_answers : laboriousRepository.AnswersAlways := by
  intro c
  unfold laboriousRepository
  dsimp only
  refine .guarded (.mapM ?_)
  rintro ⟨m, body⟩ -
  exact ⟨c.node, _, c.node.identifierSpan_mem_spans, tooManyDatabaseCalls, .head _, _, .self, rfl,
    answeredBy_ofList rfl⟩

theorem abstractionWithoutDecoupling_answers : abstractionWithoutDecoupling.AnswersAlways := by
  intro c
  unfold abstractionWithoutDecoupling
  dsimp only
  split
  · exact .node .self fun _ report => .one (report (.head _) (answeredBy_ofList rfl))
  · exact .nil

theorem ambiguousInterface_answers : ambiguousInterface.AnswersAlways := by
  intro c
  unfold ambiguousInterface
  dsimp only
  exact .guarded (.identifier fun _ report => .one (report (.head _) (answeredBy_ofList rfl)))

/-- A violation is of one of the kinds of the rule, and its message asks for one argument. -/
theorem of_mem_violations {v : Vocabulary} {path created : String} {d : Descriptor}
    (h : d ∈ violations v path created) :
    d ∈ [serviceCreatesDataAccess, logicCreatesService, dataAccessCreatesUpperLayer] ∧
      Message.answeredBy 1 0 d.message.toList = true := by
  simp only [violations, List.mem_append, List.mem_ite_nil_right, List.mem_singleton] at h
  rcases h with (⟨-, rfl⟩ | ⟨-, rfl⟩) | ⟨-, rfl⟩
  · exact ⟨.head _, answeredBy_ofList rfl⟩
  · exact ⟨.tail _ (.head _), answeredBy_ofList rfl⟩
  · exact ⟨.tail _ (.tail _ (.head _)), answeredBy_ofList rfl⟩

theorem architectureViolation_answers : architectureViolation.AnswersAlways := by
  intro c
  unfold architectureViolation
  dsimp only
  refine .guarded (.mapM fun d hd => ?_)
  obtain ⟨hdesc, hargs⟩ := of_mem_violations hd
  exact ⟨c.node, _, c.node.span_mem_spans, d, hdesc, _, .self, rfl, hargs⟩

theorem godClass_answers : godClass.AnswersAlways := by
  intro c
  unfold godClass
  dsimp only
  refine .lineCount fun lines => ?_
  exact .guarded (.identifier fun _ report => .one (report (.head _) (answeredBy_ofList rfl)))

/-- **Every built-in rule answers properly.** -/
theorem answersAlways {r : Rule} (hr : r ∈ rules) : r.AnswersAlways := by
  simp only [rules, List.mem_cons, List.not_mem_nil, or_false] at hr
  rcases hr with rfl | rfl | rfl | rfl | rfl | rfl | rfl | rfl | rfl | rfl | rfl | rfl | rfl | rfl | rfl | rfl
  · exact modelView_answers
  · exact modelController_answers
  · exact viewModel_answers
  · exact viewController_answers
  · exact controllerView_answers
  · exact controllerModel_answers
  · exact controllerBrain_answers
  · exact promiscuousController_answers
  · exact meddlingService_answers
  · exact brainRepository_answers
  · exact bigRepository_answers
  · exact laboriousRepository_answers
  · exact abstractionWithoutDecoupling_answers
  · exact ambiguousInterface_answers
  · exact architectureViolation_answers
  · exact godClass_answers

end Catalog

/-! ## Calls -/

/-- A call is of a rule that is retained, on a node of the tree whose kind the rule names. -/
theorem Setup.of_mem_calls {s : Setup} {unit : CompilationUnit} {model : Model} {c : Call}
    (h : c ∈ s.calls unit model) :
    c.rule ∈ s.rules ∧ c.context.unit = ⟨unit, model, s.effectiveSettings⟩ ∧
      c.context.node ∈ unit.root.preorder ∧ c.context.node.kind ∈ c.rule.kinds := by
  obtain ⟨o, ho, hc⟩ := List.mem_flatMap.mp h
  obtain ⟨r, hr, hc⟩ := List.mem_flatMap.mp hc
  obtain ⟨hcount, rfl⟩ := List.mem_replicate.mp hc
  refine ⟨(List.mem_filter.mp hr).1, rfl, Node.mem_preorder_of_occurrence ho, ?_⟩
  exact List.count_pos_iff.mp (Nat.pos_of_ne_zero hcount)

end LayerLint
