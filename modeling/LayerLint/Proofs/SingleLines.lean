import LayerLint.Outcome
import LayerLint.Proofs.Casing
import LayerLint.Proofs.Faults
import LayerLint.Proofs.Findings
import LayerLint.Proofs.Resolution
import LayerLint.Proofs.Workers
import Mathlib.Data.List.Basic

/-!
# `Proofs.SingleLines` — which findings stay on one line

A finding is printed on a line of its own in the compact form. Its text is put together from the path of
the unit, from names and texts that the host supplies, from fixed tokens and from numbers, and in one case
from the value of a string constant: the rule on logic in literals quotes the literal. If the host's paths,
names and texts hold no line break, that constant is the only place a line break can come from.

## Contents
- **Line breaks.** `Text.lineBreaks`; numbers, tokens and formats have none.
- **Hosts.** `HostLacks`: what a host supplies apart from constants does not hold a character.
- **Telling.** `Yields` and its laws, `Told`, `Rule.TellsPlainly`.
- **Rules.** One lemma for each built-in rule but one, and what `brainRepository` quotes.
- **Output.** The lines of the compact form, and `compact_lines`.
-/

namespace LayerLint

/-! ## Line breaks -/

namespace Text

/-- The characters that break a line. -/
def lineBreaks : List Char :=
  ['\n', '\x0b', '\x0c', '\r', Char.ofNat 0x85, Char.ofNat 0x2028, Char.ofNat 0x2029]

theorem isBlank_of_mem_lineBreaks {b : Char} (hb : b ∈ lineBreaks) : isBlank b = true := by
  have hall : lineBreaks.all isBlank = true := rfl
  exact List.all_eq_true.mp hall b hb

/-- Printable characters of ASCII throughout. -/
def isPrintable (s : List Char) : Bool := s.all fun c => Nat.ble 0x20 c.toNat && Nat.ble c.toNat 0x7E

theorem not_mem_of_isPrintable {b : Char} (hb : b ∈ lineBreaks) {s : List Char} (h : isPrintable s = true) :
    b ∉ s := by
  intro hmem
  have hnone : lineBreaks.any (fun b => Nat.ble 0x20 b.toNat && Nat.ble b.toNat 0x7E) = false := rfl
  exact List.any_eq_false.mp hnone b hb (List.all_eq_true.mp h b hmem)

/-- For a literal the test is computed on its characters. -/
theorem isPrintable_ofList {s : List Char} (h : isPrintable s = true) :
    isPrintable (String.ofList s).toList = true := by
  rw [String.toList_ofList]
  exact h

/-- A number is written in digits. -/
theorem not_mem_toString {b : Char} (hb : b ∈ lineBreaks) (n : Nat) : b ∉ (toString n).toList := by
  intro hmem
  have hdigits : (toString n).toList = Nat.toDigits 10 n := String.toList_ofList
  rw [hdigits] at hmem
  have hdigit : b.isDigit = true := Nat.isDigit_of_mem_toDigits (by decide) (by decide) hmem
  have hnone : lineBreaks.any Char.isDigit = false := rfl
  exact List.any_eq_false.mp hnone b hb hdigit

theorem mem_of_mem_trim {b : Char} {s : String} (h : b ∈ (trim s).toList) : b ∈ s.toList := by
  rw [toList_trim, trimChars, trimEnd, trimStart, List.mem_reverse] at h
  have hstart := (List.dropWhile_suffix _).mem h
  exact (List.dropWhile_suffix _).mem (List.mem_reverse.mp hstart)

end Text

namespace Message

/-- A placeholder stands for an argument. -/
theorem mem_of_placeholder? {args : List String} {rest : List Char} {arg : String} {length : Nat}
    (h : placeholder? args rest = some (arg, length)) : arg ∈ args := by
  unfold placeholder? at h
  dsimp only at h
  split at h
  · obtain ⟨found, hfound, heq⟩ := Option.map_eq_some_iff.mp h
    obtain ⟨i, -, hi⟩ := Option.bind_eq_some_iff.mp hfound
    obtain ⟨rfl, -⟩ := Prod.mk.inj heq
    exact List.mem_of_getElem? hi
  · cases h

/-- What a filled format holds comes from the format or from an argument. -/
theorem mem_of_mem_fillFrom {args : List String} {b : Char} {skip : Nat} {s : List Char}
    (h : b ∈ fillFrom args skip s) : b ∈ s ∨ ∃ a ∈ args, b ∈ a.toList := by
  induction s generalizing skip with
  | nil =>
      rw [fillFrom] at h
      cases h
  | cons c s ih =>
      -- whatever is kept of the rest of the format is in the format
      have hrest : ∀ {skip}, b ∈ fillFrom args skip s → b ∈ c :: s ∨ ∃ a ∈ args, b ∈ a.toList :=
        fun hb => (ih hb).imp_left (List.mem_cons_of_mem c)
      have hcopy : b ∈ c :: fillFrom args 0 s → b ∈ c :: s ∨ ∃ a ∈ args, b ∈ a.toList := by
        intro hb
        rcases List.mem_cons.mp hb with rfl | hb
        · exact .inl (.head _)
        · exact hrest hb
      cases skip with
      | succ skip =>
          rw [fillFrom] at h
          exact hrest h
      | zero =>
          rw [fillFrom] at h
          split at h
          · split at h
            · next arg length hplaceholder =>
                rcases List.mem_append.mp h with harg | hb
                · exact .inr ⟨arg, mem_of_placeholder? hplaceholder, harg⟩
                · exact hrest hb
            · exact hcopy h
          · exact hcopy h

theorem fillFrom_argument {args : List String} {inner : List Char} {i : Nat} {arg : String}
    (hinner : '\x7d' ∉ inner) (hi : index? inner = some i) (harg : args[i]? = some arg) (rest : List Char) :
    fillFrom args 0 ('\x7b' :: (inner ++ '\x7d' :: rest)) = arg.toList ++ fillFrom args 0 rest := by
  rw [fillFrom_placeholder hinner, hi, Option.bind_some, harg]

/-- A message holds what its format or one of its arguments holds. -/
theorem not_mem_fill {args : List String} {format : String} {b : Char} (hformat : b ∉ format.toList)
    (hargs : args.Forall fun a => b ∉ a.toList) : b ∉ (fill format args).toList := by
  intro h
  rw [fill, String.toList_ofList] at h
  rcases mem_of_mem_fillFrom h with h | ⟨a, ha, hb⟩
  · exact hformat h
  · exact List.forall_iff_forall_mem.mp hargs a ha hb

end Message

/-! ## Hosts -/

/-- **What a host supplies does not hold the character**, constants and source text aside: not the path, no
identifier or text of a node, and no name of a symbol or type that a node of the tree stands for. -/
structure HostLacks (b : Char) (unit : CompilationUnit) (model : Model) : Prop where
  path : b ∉ unit.path.toList
  name : ∀ n ∈ unit.root.preorder, b ∉ n.name.toList
  text : ∀ n ∈ unit.root.preorder, b ∉ n.text.toList
  symbol : ∀ n ∈ unit.root.preorder, ∀ s, model.symbol n = some s → b ∉ s.name.toList
  container : ∀ n ∈ unit.root.preorder, ∀ s, model.symbol n = some s → ∀ t, s.containingType = some t →
    b ∉ t.name.toList
  type : ∀ n ∈ unit.root.preorder, ∀ t, model.type n = some t → b ∉ t.name.toList
  declared : ∀ n ∈ unit.root.preorder, ∀ s, model.declared n = some s → b ∉ s.name.toList

/-- The node and its ancestors are nodes of the unit. -/
structure NodeContext.Inside (c : NodeContext) : Prop where
  node : c.node ∈ c.unit.unit.root.preorder
  ancestors : ∀ n ∈ c.ancestors, n ∈ c.unit.unit.root.preorder

namespace NodeContext.Inside

variable {c : NodeContext}

theorem below (h : c.Inside) {n : Node} (hn : n ∈ c.node.preorder) : n ∈ c.unit.unit.root.preorder :=
  Node.preorder_trans h.node hn

theorem child (h : c.Inside) {n : Node} (hn : n ∈ c.node.children) : n ∈ c.unit.unit.root.preorder :=
  h.below (Node.mem_preorder_of_child hn n.mem_preorder_self)

theorem enclosingClass (h : c.Inside) {n : Node} (hn : c.enclosingClass = some n) :
    n ∈ c.unit.unit.root.preorder := by
  unfold NodeContext.enclosingClass at hn
  split at hn
  · exact Option.some.inj hn ▸ h.node
  · exact h.ancestors n (List.mem_reverse.mp (List.mem_of_find?_eq_some hn))

end NodeContext.Inside

/-- The ancestors of a node in a tree are in the tree. -/
theorem Node.mem_preorder_of_mem_ancestors : ∀ {root : Node} {o : Occurrence}, o ∈ root.occurrences →
    ∀ n ∈ o.ancestors, n ∈ root.preorder
  | mk info cs, o, ho, n, hn => by
      rw [occurrences_mk, List.mem_cons] at ho
      rcases ho with rfl | ho
      · cases hn
      · obtain ⟨child, hchild, ho⟩ := List.mem_flatMap.mp ho
        obtain ⟨inner, hinner, rfl⟩ := List.mem_map.mp ho
        have hsize := List.sizeOf_lt_of_mem hchild
        rcases List.mem_cons.mp hn with rfl | hn
        · exact mem_preorder_self _
        · exact mem_preorder_of_child hchild (mem_preorder_of_mem_ancestors hinner n hn)

/-- Calls are made inside the unit. -/
theorem Setup.inside_of_mem_calls {s : Setup} {unit : CompilationUnit} {model : Model} {c : Call}
    (h : c ∈ s.calls unit model) : c.context.Inside := by
  obtain ⟨o, ho, hc⟩ := List.mem_flatMap.mp h
  obtain ⟨r, -, hc⟩ := List.mem_flatMap.mp hc
  obtain ⟨-, rfl⟩ := List.mem_replicate.mp hc
  exact ⟨Node.mem_preorder_of_occurrence ho, Node.mem_preorder_of_mem_ancestors ho⟩

/-! ## Telling -/

/-- The findings of an outcome that has findings are as `p` says. -/
def Yields (p : Diagnostic → Prop) (x : Except Fault (List Diagnostic)) : Prop :=
  ∀ ds, x = .ok ds → ∀ d ∈ ds, p d

namespace Yields

variable {p : Diagnostic → Prop}

theorem ok {ds : List Diagnostic} (h : ∀ d ∈ ds, p d) : Yields p (pure ds) := by
  intro es hes
  exact Except.ok.inj hes ▸ h

theorem nil : Yields p (pure []) := ok nofun

theorem one {d : Diagnostic} (h : p d) : Yields p (pure [d]) := ok (List.forall_mem_singleton.mpr h)

/-- A check that has nothing to say in one case. -/
theorem guarded {q : Prop} [Decidable q] {next : Except Fault (List Diagnostic)} (h : Yields p next) :
    Yields p (if q then pure [] else next) := by
  split
  · exact nil
  · exact h

/-- A check that computes something first. -/
theorem bind {α : Type} {x : Except Fault α} {next : α → Except Fault (List Diagnostic)}
    (h : ∀ a, Yields p (next a)) : Yields p (x >>= next) := by
  cases x with
  | error e => exact nofun
  | ok a => exact h a

/-- A check that makes one finding of each of some things. -/
theorem mapM {α : Type} {xs : List α} {found : α → Except Fault Diagnostic}
    (h : ∀ x ∈ xs, ∀ d, found x = .ok d → p d) : Yields p (xs.mapM found) := by
  induction xs with
  | nil => exact nil
  | cons x xs ih =>
      obtain ⟨hx, hxs⟩ := List.forall_mem_cons.mp h
      intro ds hds
      obtain ⟨d, rest, hd, hrest, rfl⟩ := mapM_cons_eq_ok_iff.mp hds
      exact List.forall_mem_cons.mpr ⟨hx d hd, ih hxs rest hrest⟩

end Yields

/-- **The finding is told without the character**: it is of one of the kinds, and no argument of its
message holds the character. -/
def Told (b : Char) (descriptors : List Descriptor) (d : Diagnostic) : Prop :=
  ∃ desc ∈ descriptors, ∃ location args, d = desc.diagnostic location args ∧
    args.Forall fun a => b ∉ a.toList

theorem Told.intro {b : Char} {descriptors : List Descriptor} {desc : Descriptor} {location : Location}
    {args : List String} (hdesc : desc ∈ descriptors) (hargs : args.Forall fun a => b ∉ a.toList) :
    Told b descriptors (desc.diagnostic location args) :=
  ⟨desc, hdesc, location, args, rfl, hargs⟩

/-- **The rule passes the character on only if the host supplies it.** -/
def Rule.TellsPlainly (b : Char) (r : Rule) : Prop :=
  ∀ c : NodeContext, c.Inside → HostLacks b c.unit.unit c.model → Yields (Told b r.descriptors) (r.check c)

/-! ## Rules -/

namespace Scan

variable {b : Char} (hb : b ∈ Text.lineBreaks)
include hb

theorem not_mem_tag {text tag : String} (h : tag ∈ allTokens htmlTags text) : b ∉ tag.toList := by
  have hall : htmlTags.all (Text.isPrintable ·.toList) = true := by decide +kernel
  exact Text.not_mem_of_isPrintable hb (List.all_eq_true.mp hall tag (List.mem_filter.mp h).1)

theorem not_mem_command {text command : String} (h : firstToken? sqlTokens text = some command) :
    b ∉ command.toList := by
  have hall : sqlTokens.all (Text.isPrintable ·.toList) = true := by decide +kernel
  exact Text.not_mem_of_isPrintable hb (List.all_eq_true.mp hall command (List.mem_of_find?_eq_some h))

end Scan

namespace Catalog

variable {b : Char}

section

variable (hb : b ∈ Text.lineBreaks)
include hb

theorem modelView_tells : modelView.TellsPlainly b := by
  intro c hin hhost
  have hname := hhost.name _ hin.node
  unfold modelView
  dsimp only
  refine .guarded (.bind fun location => .ok ?_)
  rw [List.forall_mem_append, List.forall_mem_map, List.forall_mem_map]
  constructor
  · intro tag htag
    exact .intro (.head _) ⟨hname, Scan.not_mem_tag hb htag⟩
  · intro command hcommand
    exact .intro (.tail _ (.head _)) ⟨hname, Scan.not_mem_command hb (Option.mem_toList.mp hcommand)⟩

theorem controllerView_tells : controllerView.TellsPlainly b := by
  intro c hin hhost
  have hname := hhost.name _ hin.node
  unfold controllerView
  dsimp only
  refine .guarded ?_
  cases htag : Scan.firstToken? Scan.htmlTags c.unit.loweredText with
  | none => exact .nil
  | some tag =>
      have hall : tag ∈ Scan.allTokens Scan.htmlTags c.unit.loweredText :=
        List.mem_of_mem_head? (by rw [Scan.head?_allTokens]; exact htag)
      exact .bind fun location => .one (.intro (.head _) ⟨hname, Scan.not_mem_tag hb hall⟩)

/-- Two rules name the first SQL command and a reference to data access. -/
theorem told_dataAccess {descriptors : List Descriptor} {sql reference : Descriptor} {location : Location}
    {name text : String} {references : Bool} (hsql : sql ∈ descriptors) (hreference : reference ∈ descriptors)
    (hname : b ∉ name.toList) :
    ∀ d ∈ (Scan.firstToken? Scan.sqlTokens text).toList.map (sql.diagnostic location [name, ·]) ++
        (if references then [reference.diagnostic location [name]] else []), Told b descriptors d := by
  rw [List.forall_mem_append, List.forall_mem_map]
  constructor
  · intro command hcommand
    exact .intro hsql ⟨hname, Scan.not_mem_command hb (Option.mem_toList.mp hcommand)⟩
  · cases references with
    | false => exact nofun
    | true => exact List.forall_mem_singleton.mpr (.intro hreference hname)

theorem viewModel_tells : viewModel.TellsPlainly b := by
  intro c hin hhost
  unfold viewModel
  dsimp only
  exact .guarded (.bind fun location =>
    .ok (told_dataAccess hb (.head _) (.tail _ (.head _)) (hhost.name _ hin.node)))

theorem controllerModel_tells : controllerModel.TellsPlainly b := by
  intro c hin hhost
  unfold controllerModel
  dsimp only
  exact .guarded (.bind fun location =>
    .ok (told_dataAccess hb (.head _) (.tail _ (.head _)) (hhost.name _ hin.node)))

theorem meddlingService_tells : meddlingService.TellsPlainly b := by
  intro c hin hhost
  have hname := hhost.name _ hin.node
  unfold meddlingService
  dsimp only
  refine .guarded (.bind fun location => .ok ?_)
  rw [List.forall_mem_append, List.forall_mem_map, List.forall_mem_map]
  constructor
  · intro command hcommand
    exact .intro (.head _) ⟨hname, Scan.not_mem_command hb (Option.mem_toList.mp hcommand)⟩
  · intro library hlibrary
    -- an import is the trimmed text of a directive
    obtain ⟨directive, hdirective, rfl⟩ := List.mem_map.mp (List.mem_filter.mp hlibrary).1
    have hbelow := (List.mem_filter.mp hdirective).1
    rw [Node.descendants_eq] at hbelow
    have htext := hhost.text directive (by rw [Node.preorder_eq]; exact .tail _ hbelow)
    exact .intro (.tail _ (.head _)) ⟨hname, mt Text.mem_of_mem_trim htext⟩

theorem controllerBrain_tells : controllerBrain.TellsPlainly b := by
  intro c hin hhost
  unfold controllerBrain
  dsimp only
  exact .guarded (.guarded (.bind fun location => .one (.intro (.head _)
    ⟨hhost.name _ hin.node, Text.not_mem_toString hb _, Text.not_mem_toString hb _⟩)))

theorem promiscuousController_tells : promiscuousController.TellsPlainly b := by
  intro c hin hhost
  unfold promiscuousController
  dsimp only
  exact .guarded (.guarded (.bind fun location => .one (.intro (.head _)
    ⟨hhost.name _ hin.node, Text.not_mem_toString hb _, Text.not_mem_toString hb _,
      Text.not_mem_toString hb _⟩)))

theorem ambiguousInterface_tells : ambiguousInterface.TellsPlainly b := by
  intro c hin hhost
  unfold ambiguousInterface
  dsimp only
  exact .guarded (.bind fun location => .one (.intro (.head _)
    ⟨hhost.name _ hin.node, Text.not_mem_toString hb _, Text.not_mem_toString hb _⟩))

theorem godClass_tells : godClass.TellsPlainly b := by
  intro c hin hhost
  unfold godClass
  dsimp only
  exact .bind fun lines => .guarded (.bind fun location => .one (.intro (.head _)
    ⟨hhost.name _ hin.node, Text.not_mem_toString hb _, Text.not_mem_toString hb _⟩))

omit hb in
theorem not_mem_declaredName {c : NodeContext} (hin : c.Inside) (hhost : HostLacks b c.unit.unit c.model) :
    b ∉ (declaredName c.model c.node).toList := by
  unfold declaredName
  cases hdeclared : c.model.declared c.node with
  | none => exact hhost.name _ hin.node
  | some s => exact hhost.declared _ hin.node s hdeclared

theorem bigRepository_tells : bigRepository.TellsPlainly b := by
  intro c hin hhost
  unfold bigRepository
  dsimp only
  exact .guarded (.guarded (.bind fun location => .one (.intro (.head _)
    ⟨not_mem_declaredName hin hhost, Text.not_mem_toString hb _, Text.not_mem_toString hb _⟩)))

omit hb in
/-- A finding that is made at a place is made of the place and the arguments. -/
theorem told_of_ok {descriptors : List Descriptor} {desc : Descriptor} {place : Except Fault Location}
    {args : List String} {d : Diagnostic}
    (h : (do return desc.diagnostic (← place) args : Except Fault Diagnostic) = .ok d)
    (hdesc : desc ∈ descriptors) (hargs : args.Forall fun a => b ∉ a.toList) : Told b descriptors d := by
  cases place with
  | error e => cases h
  | ok location => exact Except.ok.inj h ▸ .intro hdesc hargs

theorem laboriousRepository_tells : laboriousRepository.TellsPlainly b := by
  intro c hin hhost
  unfold laboriousRepository
  dsimp only
  refine .guarded (.mapM ?_)
  rintro ⟨m, body⟩ hmethod d hd
  -- the method is a member of the class
  obtain ⟨hbody, -⟩ := List.mem_filter.mp hmethod
  obtain ⟨m', hm', heq⟩ := List.mem_filterMap.mp hbody
  obtain ⟨_, -, heq⟩ := Option.map_eq_some_iff.mp heq
  obtain ⟨rfl, -⟩ := Prod.mk.inj heq
  have hmember : b ∉ m'.name.toList := hhost.name _ (hin.child (List.mem_filter.mp hm').1)
  exact told_of_ok hd (.head _) ⟨hmember, not_mem_declaredName hin hhost, Text.not_mem_toString hb _,
    Text.not_mem_toString hb _⟩

end

/-- A member that carries an HTTP verb is named with its class. -/
theorem told_httpMember {c : NodeContext} {descriptors : List Descriptor} {desc : Descriptor} (hin : c.Inside)
    (hhost : HostLacks b c.unit.unit c.model) (hdesc : desc ∈ descriptors) :
    Yields (Told b descriptors) (match Scan.firstHttpMember? c.model c.node with
      | some member => do return [desc.diagnostic (← c.nodeLocation member) [c.node.name, member.name]]
      | none => return []) := by
  cases hmember : Scan.firstHttpMember? c.model c.node with
  | none => exact .nil
  | some member =>
      have hchild : member ∈ c.node.children := List.mem_of_find?_eq_some hmember
      exact .bind fun location =>
        .one (.intro hdesc ⟨hhost.name _ hin.node, hhost.name _ (hin.child hchild)⟩)

theorem modelController_tells : modelController.TellsPlainly b := by
  intro c hin hhost
  unfold modelController
  dsimp only
  exact .guarded (told_httpMember hin hhost (.head _))

theorem viewController_tells : viewController.TellsPlainly b := by
  intro c hin hhost
  unfold viewController
  dsimp only
  exact .guarded (told_httpMember hin hhost (.head _))

theorem abstractionWithoutDecoupling_tells : abstractionWithoutDecoupling.TellsPlainly b := by
  intro c hin hhost
  unfold abstractionWithoutDecoupling
  dsimp only
  cases hcoupling : coupling? c.model c.node with
  | none => exact .nil
  | some k =>
      obtain ⟨hsymbol, -, hcontainer, -, receiver, hreceiver, htype, -⟩ := coupling?_eq_some_iff.mp hcoupling
      have hk := hhost.container _ hin.node _ hsymbol _ hcontainer
      have haccessor : b ∉ (match c.enclosingClass with
          | some cls => cls.name
          | none => k.container.name).toList := by
        cases hclass : c.enclosingClass with
        | none => exact hk
        | some cls => exact hhost.name _ (hin.enclosingClass hclass)
      have hchild : receiver ∈ c.node.children := by
        unfold Node.receiver at hreceiver
        split at hreceiver
        · exact List.mem_of_mem_head? hreceiver
        · cases hreceiver
      exact .bind fun location => .one (.intro (.head _)
        ⟨haccessor, hhost.type _ (hin.child hchild) _ htype, hhost.symbol _ hin.node _ hsymbol, hk⟩)

theorem architectureViolation_tells : architectureViolation.TellsPlainly b := by
  intro c hin hhost
  unfold architectureViolation
  dsimp only
  refine .guarded (.mapM fun desc hdesc d hd => ?_)
  exact told_of_ok hd (of_mem_violations hdesc).1 (hhost.text _ hin.node)

/-- **Every built-in rule but the one on logic in literals** passes a line break on only if the host
supplies it, and has other codes. -/
theorem tellsPlainly (hb : b ∈ Text.lineBreaks) {r : Rule} (hr : r ∈ rules) :
    r = brainRepository ∨ r.TellsPlainly b ∧ ∀ desc ∈ r.descriptors, desc.id ≠ "RA10-001" := by
  simp only [rules, List.mem_cons, List.not_mem_nil, or_false] at hr
  rcases hr with rfl | rfl | rfl | rfl | rfl | rfl | rfl | rfl | rfl | rfl | rfl | rfl | rfl | rfl | rfl | rfl
  · exact .inr ⟨modelView_tells hb, by decide⟩
  · exact .inr ⟨modelController_tells, by decide⟩
  · exact .inr ⟨viewModel_tells hb, by decide⟩
  · exact .inr ⟨viewController_tells, by decide⟩
  · exact .inr ⟨controllerView_tells hb, by decide⟩
  · exact .inr ⟨controllerModel_tells hb, by decide⟩
  · exact .inr ⟨controllerBrain_tells hb, by decide⟩
  · exact .inr ⟨promiscuousController_tells hb, by decide⟩
  · exact .inr ⟨meddlingService_tells hb, by decide⟩
  · exact .inl rfl
  · exact .inr ⟨bigRepository_tells hb, by decide⟩
  · exact .inr ⟨laboriousRepository_tells hb, by decide⟩
  · exact .inr ⟨abstractionWithoutDecoupling_tells, by decide⟩
  · exact .inr ⟨ambiguousInterface_tells hb, by decide⟩
  · exact .inr ⟨architectureViolation_tells, by decide⟩
  · exact .inr ⟨godClass_tells hb, by decide⟩

/-- The message on logic in a literal, written out. -/
theorem fill_complexQueryLogic (query count limit : String) :
    Message.fill complexQueryLogic.message [query, count, limit] =
      "Query \"" ++ query ++ "\" has " ++ count ++ " logic keywords (limit " ++ limit ++ ")" := by
  have hformat : complexQueryLogic.message.toList =
      "Query \"".toList ++ '\x7b' :: (['0'] ++ '\x7d' :: ("\" has ".toList ++
        '\x7b' :: (['1'] ++ '\x7d' :: (" logic keywords (limit ".toList ++
          '\x7b' :: (['2'] ++ '\x7d' :: (")".toList ++ [])))))) := by decide +kernel
  have hzero : Message.index? ['0'] = some 0 := by decide
  have hone : Message.index? ['1'] = some 1 := by decide
  have htwo : Message.index? ['2'] = some 2 := by decide
  apply String.toList_injective
  rw [Message.fill, String.toList_ofList, hformat, Message.fillFrom_text (by decide),
    Message.fillFrom_argument (by decide) hzero rfl, Message.fillFrom_text (by decide),
    Message.fillFrom_argument (by decide) hone rfl, Message.fillFrom_text (by decide),
    Message.fillFrom_argument (by decide) htwo rfl, Message.fillFrom_text (by decide)]
  simp only [String.toList_append, Message.fillFrom, List.append_nil, List.append_assoc]

end Catalog

/-- **The finding quotes a constant**: the value of a node of the unit is a text, and its lower case is what
the message on logic in literals names. -/
def Quotes (unit : CompilationUnit) (model : Model) (d : Diagnostic) (q : String) : Prop :=
  ∃ t ∈ unit.root.preorder, model.constant t = some (.text q) ∧ ∃ count limit : Nat,
    d.message = "Query \"" ++ Text.lower q ++ "\" has " ++ toString count ++ " logic keywords (limit " ++
      toString limit ++ ")"

namespace Catalog

/-- Logic is counted in the lower case of a text constant. -/
theorem text_of_excessiveLogic? {model : Model} {limit count : Nat} {literal : Node} {lowered : String}
    (h : excessiveLogic? model limit literal = some (lowered, count)) :
    ∃ q, model.constant literal = some (.text q) ∧ lowered = Text.lower q := by
  obtain ⟨constant, hconstant, h⟩ := Option.bind_eq_some_iff.mp h
  obtain ⟨q, hq, h⟩ := Option.bind_eq_some_iff.mp h
  obtain ⟨n, -, h⟩ := Option.bind_eq_some_iff.mp h
  split at h
  · obtain ⟨rfl, -⟩ := Prod.mk.inj (Option.some.inj h)
    cases constant with
    | text s =>
        obtain rfl : s = q := Option.some.inj hq
        exact ⟨s, hconstant, rfl⟩
    | bool _ | int _ | float _ => cases hq
  · cases h

theorem brainRepository_quotes {c : NodeContext} (hin : c.Inside) :
    Yields (fun d => d.code = "RA10-001" ∧ ∃ q, Quotes c.unit.unit c.model d q) (brainRepository.check c) := by
  unfold brainRepository
  dsimp only
  refine .guarded (.mapM ?_)
  rintro ⟨t, lowered, count⟩ hfound d hd
  obtain ⟨literal, hliteral, heq⟩ := List.mem_filterMap.mp hfound
  obtain ⟨found, hlogic, heq⟩ := Option.map_eq_some_iff.mp heq
  obtain ⟨rfl, rfl⟩ := Prod.mk.inj heq
  obtain ⟨q, hconstant, rfl⟩ := text_of_excessiveLogic? hlogic
  have hmem := hin.below (site_of_mem_bodyLiterals hliteral).mem_preorder
  cases hlocation : c.nodeLocation literal with
  | error e =>
      dsimp only at hd
      rw [hlocation] at hd
      cases hd
  | ok location =>
      dsimp only at hd
      rw [hlocation] at hd
      obtain rfl := Except.ok.inj hd
      exact ⟨rfl, q, literal, hmem, hconstant, count, _, fill_complexQueryLogic _ _ _⟩

end Catalog

/-! ## Output -/

theorem Text.count_eq_zero {b : Char} (hb : b ∈ lineBreaks) {s : String} (h : isPrintable s.toList = true) :
    s.toList.count b = 0 :=
  List.count_eq_zero.mpr (not_mem_of_isPrintable hb h)

/-- Apart from the message, a finding in the file of the unit holds no line break. -/
theorem Diagnostic.count_display {b : Char} (hb : b ∈ Text.lineBreaks) {d : Diagnostic}
    (hfile : b ∉ d.location.file.toList) (hcode : b ∉ d.code.toList) :
    d.display.toList.count b = d.message.toList.count b := by
  have hseverity : d.severity.name.toList.count b = 0 := by
    cases d.severity
    exact Text.count_eq_zero hb (Text.isPrintable_ofList rfl)
  rw [display]
  simp only [String.toList_append, List.count_append, List.count_eq_zero.mpr hfile,
    List.count_eq_zero.mpr hcode, List.count_eq_zero.mpr (Text.not_mem_toString hb _), hseverity,
    Text.count_eq_zero hb (s := ":") (Text.isPrintable_ofList rfl),
    Text.count_eq_zero hb (s := ": ") (Text.isPrintable_ofList rfl),
    Text.count_eq_zero hb (s := " [") (Text.isPrintable_ofList rfl),
    Text.count_eq_zero hb (s := "] ") (Text.isPrintable_ofList rfl),
    Nat.zero_add]

/-- A message that quotes a constant holds the line breaks of the constant. -/
theorem Quotes.count_message {b : Char} (hb : b ∈ Text.lineBreaks) {unit : CompilationUnit} {model : Model}
    {d : Diagnostic} {q : String} (h : Quotes unit model d q) :
    d.message.toList.count b = q.toList.count b := by
  obtain ⟨t, -, -, count, limit, hmessage⟩ := h
  have hlower : (Text.lower q).toList.count b = q.toList.count b := by
    rw [Text.toList_lower, Text.lowerChars, Text.count_lowerFrom (Text.isBlank_of_mem_lineBreaks hb)]
  rw [hmessage]
  simp only [String.toList_append, List.count_append, hlower,
    List.count_eq_zero.mpr (Text.not_mem_toString hb _),
    Text.count_eq_zero hb (s := "Query \"") (Text.isPrintable_ofList rfl),
    Text.count_eq_zero hb (s := "\" has ") (Text.isPrintable_ofList rfl),
    Text.count_eq_zero hb (s := " logic keywords (limit ") (Text.isPrintable_ofList rfl),
    Text.count_eq_zero hb (s := ")") (Text.isPrintable_ofList rfl), Nat.zero_add, Nat.add_zero]

namespace Catalog

/-- Codes and formats of the built-in kinds are printable. -/
theorem isPrintable_descriptors : (rules.flatMap (·.descriptors)).Forall fun d =>
    Text.isPrintable d.id.toList = true ∧ Text.isPrintable d.message.toList = true := by
  refine ⟨?_, ?_, ?_, ?_, ?_, ?_, ?_, ?_, ?_, ?_, ?_, ?_, ?_, ?_, ?_, ?_, ?_, ?_, ?_, ?_, ?_, ?_⟩ <;>
    exact ⟨Text.isPrintable_ofList rfl, Text.isPrintable_ofList rfl⟩

theorem isPrintable_of_mem {r : Rule} (hr : r ∈ rules) {d : Descriptor} (hd : d ∈ r.descriptors) :
    Text.isPrintable d.id.toList = true ∧ Text.isPrintable d.message.toList = true :=
  List.forall_iff_forall_mem.mp isPrintable_descriptors d (List.mem_flatMap.mpr ⟨r, hr, hd⟩)

end Catalog

/-- **Where a line break in a finding comes from**, if the host supplies none: from the constant that the
rule on logic in literals quotes. -/
theorem Setup.count_display_of_mem {s : Setup} (hrules : ∀ r ∈ s.rules, r ∈ Catalog.rules)
    {unit : CompilationUnit} {model : Model} {ds : List Diagnostic} {d : Diagnostic}
    (hhost : ∀ b ∈ Text.lineBreaks, HostLacks b unit model)
    (hds : s.analyzer.analyzeUnit unit model = .ok ds) (hd : d ∈ ds) :
    (∀ b ∈ Text.lineBreaks, d.display.toList.count b = d.message.toList.count b) ∧
    (d.code ≠ "RA10-001" → ∀ b ∈ Text.lineBreaks, b ∉ d.message.toList) ∧
    (d.code = "RA10-001" → ∃ q, Quotes unit model d q) := by
  obtain ⟨c, hc, found, hrun, hfound, -⟩ := s.exists_call_of_mem hds hd
  obtain ⟨hrule, hunit, -, -⟩ := Setup.of_mem_calls hc
  have hin := Setup.inside_of_mem_calls hc
  have hcatalog := hrules _ hrule
  rw [Call.run] at hrun
  have hanswers := Catalog.answersAlways hcatalog c.context
  rw [hrun] at hanswers
  obtain ⟨desc, hdesc, args, location, t, span, -, -, hlocation, -, rfl⟩ := hanswers.reported d hfound
  have hfile := UnitContext.file_of_location hlocation
  obtain ⟨hid, hmessage⟩ := Catalog.isPrintable_of_mem hcatalog hdesc
  rw [hunit] at hfile
  refine ⟨fun b hb => ?_, fun hcode b hb => ?_, fun hcode => ?_⟩
  · have hpath : b ∉ location.file.toList := hfile ▸ (hhost b hb).path
    exact Diagnostic.count_display hb hpath (Text.not_mem_of_isPrintable hb hid)
  · have hlacks : HostLacks b c.context.unit.unit c.context.model := by
      rw [NodeContext.model, hunit]
      exact hhost b hb
    rcases Catalog.tellsPlainly hb hcatalog with hbrain | ⟨htells, -⟩
    · rw [hbrain] at hrun
      exact absurd (Catalog.brainRepository_quotes hin _ hrun _ hfound).1 hcode
    · obtain ⟨desc', hdesc', _, args', heq, hargs⟩ := htells _ hin hlacks _ hrun _ hfound
      have hformat := Catalog.isPrintable_of_mem hcatalog hdesc'
      rw [heq]
      exact Message.not_mem_fill (Text.not_mem_of_isPrintable hb hformat.2) hargs
  · -- the code belongs to one rule only
    rcases Catalog.tellsPlainly (b := '\n') (.head _) hcatalog with hbrain | ⟨-, hids⟩
    · rw [hbrain] at hrun
      obtain ⟨-, q, hq⟩ := Catalog.brainRepository_quotes hin _ hrun _ hfound
      rw [NodeContext.model, hunit] at hq
      exact ⟨q, hq⟩
    · exact absurd hcode (hids desc hdesc)

/-- The findings of an analysis of snapshots are the findings of the snapshots. -/
theorem Analyzer.exists_of_mem_analyzeSnapshots {a : Analyzer} {snapshots : List Snapshot} {d : Diagnostic}
    (h : d ∈ (a.analyzeSnapshots snapshots).diagnostics) :
    ∃ x ∈ snapshots, ∃ ds, a.analyzeUnit x.unit x.symbols.model = .ok ds ∧ d ∈ ds := by
  rw [analyzeSnapshots, analyzeAll_eq] at h
  obtain ⟨p, hp, hd⟩ := List.mem_flatMap.mp (List.mem_mergeSort.mp h)
  obtain ⟨x, hx, rfl⟩ := List.mem_map.mp hp
  unfold findings at hd
  split at hd
  · next ds hds => exact ⟨x, hx, ds, hds, hd⟩
  · cases hd

/-- Whole lines end with as many line feeds as there are lines. -/
theorem Report.count_unlines (lines : List String) :
    (unlines lines).toList.count '\n' = lines.length + total (lines.map (·.toList.count '\n')) := by
  induction lines with
  | nil => rfl
  | cons line lines ih =>
      have hcons : unlines (line :: lines) = line ++ "\n" ++ unlines lines := by
        rw [unlines, unlines, List.map_cons, String.join_cons]
      rw [hcons]
      simp only [String.toList_append, List.count_append, ih, List.length_cons, List.map_cons, total_cons]
      have hend : "\n".toList.count '\n' = 1 := by decide
      omega

/-- What a check analyses: a setup with all rules, the configuration that is found and the selection, and the
snapshots in the files. -/
structure Surroundings.Analyzes (sur : Surroundings) (paths : List String) (rules config : Option String)
    (s : Setup) (snapshots : List Snapshot) : Prop where
  load : ConfigSearch.load ⟨sur.disk, config, paths.head?.getD ".", sur.globalDirectory⟩ = .ok s.config
  setup : s = { rules := Catalog.rules, config := s.config, selection := (rules.map Check.selection).getD [] }
  files : ∃ files, sur.disk.discover sur.home paths = .ok files ∧ snapshots = files.filterMap (Check.load? sur.disk)

theorem Surroundings.Analyzes.output_check {sur : Surroundings} {paths : List String}
    {rules config : Option String} {s : Setup} {snapshots : List Snapshot} {a : Analyzer}
    (h : sur.Analyzes paths rules config s snapshots) (hbuild : s.build = .ok a) (format : Format) :
    (sur.check paths format rules config).output =
      (format.render (snapshots.map (·.unit)) (a.analyzeSnapshots snapshots)).text := by
  obtain ⟨files, hfiles, rfl⟩ := h.files
  rw [h.setup] at hbuild
  unfold check
  dsimp only
  rw [h.load]
  dsimp only
  rw [hbuild]
  dsimp only
  rw [hfiles]

/-- **One line for each finding, but for what is quoted.** If the host supplies no line break in a path, name
or text, then a finding that is not on logic in a literal is displayed without one, and a finding on logic in
a literal with exactly those of the constant that it quotes. So the compact form has as many lines as there
are findings if and only if no line feed is quoted; and it is what a check prints. -/
theorem compact_lines {s : Setup} {a : Analyzer} (hrules : ∀ r ∈ s.rules, r ∈ Catalog.rules)
    (hbuild : s.build = .ok a) {snapshots : List Snapshot}
    (hhost : ∀ x ∈ snapshots, ∀ b ∈ Text.lineBreaks, HostLacks b x.unit x.symbols.model) :
    let found := (a.analyzeSnapshots snapshots).diagnostics
    let output := (Format.compact.render (snapshots.map (·.unit)) (a.analyzeSnapshots snapshots)).text
    (∀ d ∈ found, d.code ≠ "RA10-001" → ∀ b ∈ Text.lineBreaks, b ∉ d.display.toList) ∧
    (∀ d ∈ found, d.code = "RA10-001" → ∃ x ∈ snapshots, ∃ q, Quotes x.unit x.symbols.model d q ∧
      ∀ b ∈ Text.lineBreaks, d.display.toList.count b = q.toList.count b) ∧
    (output.toList.count '\n' = found.length ↔
      ∀ d ∈ found, ∀ x ∈ snapshots, ∀ q, Quotes x.unit x.symbols.model d q → '\n' ∉ q.toList) ∧
    ∀ sur paths rules config, Surroundings.Analyzes sur paths rules config s snapshots →
      (sur.check paths .compact rules config).output = output := by
  intro found output
  obtain ⟨-, rfl⟩ := s.build_eq_ok_iff.mp hbuild
  have hfeed : '\n' ∈ Text.lineBreaks := .head _
  have hfound : ∀ d ∈ found, ∃ x ∈ snapshots,
      (∀ b ∈ Text.lineBreaks, d.display.toList.count b = d.message.toList.count b) ∧
      (d.code ≠ "RA10-001" → ∀ b ∈ Text.lineBreaks, b ∉ d.message.toList) ∧
      (d.code = "RA10-001" → ∃ q, Quotes x.unit x.symbols.model d q) := by
    intro d hd
    obtain ⟨x, hx, ds, hds, hd⟩ := Analyzer.exists_of_mem_analyzeSnapshots hd
    exact ⟨x, hx, Setup.count_display_of_mem hrules (hhost x hx) hds hd⟩
  have hcount : output.toList.count '\n' =
      found.length + total (found.map (·.display.toList.count '\n')) := by
    show (Report.unlines (Report.compact _)).toList.count '\n' = _
    rw [Report.count_unlines, Report.compact, List.length_map, List.map_map]
    rfl
  refine ⟨fun d hd hcode b hb => ?_, fun d hd hcode => ?_, ?_, fun sur paths rules config h =>
    h.output_check hbuild .compact⟩
  · obtain ⟨x, -, hdisplay, hplain, -⟩ := hfound d hd
    rw [← List.count_eq_zero, hdisplay b hb, List.count_eq_zero]
    exact hplain hcode b hb
  · obtain ⟨x, hx, hdisplay, -, hquotes⟩ := hfound d hd
    obtain ⟨q, hq⟩ := hquotes hcode
    exact ⟨x, hx, q, hq, fun b hb => (hdisplay b hb).trans (hq.count_message hb)⟩
  · have hnone : output.toList.count '\n' = found.length ↔
        ∀ d ∈ found, d.message.toList.count '\n' = 0 := by
      rw [hcount, Nat.add_eq_left, total_eq_zero_iff, List.forall_mem_map]
      refine forall₂_congr fun d hd => ?_
      obtain ⟨x, -, hdisplay, -⟩ := hfound d hd
      rw [hdisplay _ hfeed]
    rw [hnone]
    constructor
    · intro h d hd x hx q hq
      rw [← List.count_eq_zero, ← hq.count_message hfeed]
      exact h d hd
    · intro h d hd
      obtain ⟨x, hx, -, hplain, hquotes⟩ := hfound d hd
      by_cases hcode : d.code = "RA10-001"
      · obtain ⟨q, hq⟩ := hquotes hcode
        rw [hq.count_message hfeed, List.count_eq_zero]
        exact h d hd x hx q hq
      · exact List.count_eq_zero.mpr (hplain hcode '\n' hfeed)

namespace Sample

/-- A repository with a literal in a method. -/
def repository : CompilationUnit where
  path := "Pedidos/PedidoDal.cs"
  root := .mk { kind := .compilationUnit }
    [.mk { kind := .classDecl, identifier := some "PedidoDal" }
      [.mk { kind := .methodDecl, identifier := some "Buscar" }
        [.mk { kind := .block } [.mk { id := 1, kind := .literal } []]]]]

/-- The literal is a query. -/
def querying (query : String) : Snapshot where
  unit := repository
  symbols := { constants := .ofList [(1, .text query)] }

theorem eq_of_constant_querying {query q : String} {n : Node}
    (h : (querying query).symbols.model.constant n = some (.text q)) : q = query := by
  have hentry := IdMap.get?_eq_some_iff.mp h
  simp only [querying, IdMap.ofList, IdMap.insert, List.foldl_cons, List.foldl_nil] at hentry
  exact Constant.text.inj (Prod.mk.inj (List.mem_singleton.mp hentry)).2

/-- The host of the repository supplies a path and names, and no line break. -/
theorem hostLacks_querying (query : String) {b : Char} (hb : b ∈ Text.lineBreaks) :
    HostLacks b (querying query).unit (querying query).symbols.model := by
  have hnodes : ∀ n ∈ repository.root.preorder,
      Text.isPrintable n.name.toList = true ∧ Text.isPrintable n.text.toList = true := by
    decide +kernel
  constructor
  · exact Text.not_mem_of_isPrintable hb (Text.isPrintable_ofList rfl)
  · exact fun n hn => Text.not_mem_of_isPrintable hb (hnodes n hn).1
  · exact fun n hn => Text.not_mem_of_isPrintable hb (hnodes n hn).2
  · exact fun _ _ _ h => nomatch h
  · exact fun _ _ _ h => nomatch h
  · exact fun _ _ _ h => nomatch h
  · exact fun _ _ _ h => nomatch h

/-- All built-in rules, restricted to logic in literals. -/
def onLiterals : Setup where
  rules := Catalog.rules
  selection := ["RA10-001"]

theorem build_onLiterals : onLiterals.build = .ok onLiterals.analyzer :=
  onLiterals.build_eq_ok_iff.mpr ⟨by decide +kernel, rfl⟩

/-- A query with four words of logic. -/
def query (gap : String) : String := "select a," ++ gap ++ "b from t where x and y or z"

/-- The query is on one line exactly if the gap is. -/
theorem not_mem_query_iff {gap : String} : '\n' ∉ (query gap).toList ↔ '\n' ∉ gap.toList := by
  have hfeed : '\n' ∈ Text.lineBreaks := .head _
  have hstart : '\n' ∉ "select a,".toList :=
    Text.not_mem_of_isPrintable hfeed (Text.isPrintable_ofList rfl)
  have hend : '\n' ∉ "b from t where x and y or z".toList :=
    Text.not_mem_of_isPrintable hfeed (Text.isPrintable_ofList rfl)
  simp only [query, String.toList_append, List.mem_append, hstart, hend, false_or, or_false]

/-- What is found in the repository. -/
def tooClever (gap : String) : Diagnostic where
  code := "RA10-001"
  rule := "brain-repository"
  location := { file := "Pedidos/PedidoDal.cs", line := 0, column := 0 }
  message := "Query \"" ++ query gap ++ "\" has 4 logic keywords (limit 3)"

theorem diagnostics_querying (gap : String) (hgap : gap ∈ [" ", "\n"]) :
    (onLiterals.analyzer.analyzeSnapshots [querying (query gap)]).diagnostics = [tooClever gap] := by
  have hok : ∀ gap ∈ [" ", "\n"],
      (onLiterals.calls repository (querying (query gap)).symbols.model).all (·.run.isOk) := by
    decide +kernel
  have hkept : ∀ gap ∈ [" ", "\n"],
      (onLiterals.calls repository (querying (query gap)).symbols.model).flatMap onLiterals.kept =
        [tooClever gap] := by
    decide +kernel
  have hfindings : onLiterals.analyzer.findings (repository, (querying (query gap)).symbols.model) =
      [tooClever gap] := by
    unfold Analyzer.findings
    rw [onLiterals.analyzeUnit_of_all_ok (Call.exists_ok_of_all_isOk (hok gap hgap)), hkept gap hgap,
      Diagnostic.sort_of_ordered (List.pairwise_singleton _ _)]
  rw [Analyzer.analyzeSnapshots, Analyzer.analyzeAll_eq, List.map_cons, List.flatMap_cons]
  show Diagnostic.sort (onLiterals.analyzer.findings (repository, _) ++ []) = _
  rw [hfindings]
  exact Diagnostic.sort_of_ordered (List.pairwise_singleton _ _)

end Sample

/-- The query on one line is quoted on one line. -/
theorem compact_lines_sample :
    ∃ a, Sample.onLiterals.build = .ok a ∧
      (a.analyzeSnapshots [Sample.querying (Sample.query " ")]).diagnostics = [Sample.tooClever " "] ∧
      (Format.compact.render [Sample.repository]
        (a.analyzeSnapshots [Sample.querying (Sample.query " ")])).text.toList.count '\n' = 1 := by
  have hrules : ∀ r ∈ Sample.onLiterals.rules, r ∈ Catalog.rules := fun _ hr => hr
  have hfound := Sample.diagnostics_querying " " (by decide)
  have hhost : ∀ x ∈ [Sample.querying (Sample.query " ")], ∀ b ∈ Text.lineBreaks,
      HostLacks b x.unit x.symbols.model :=
    List.forall_mem_singleton.mpr fun b hb => Sample.hostLacks_querying _ hb
  obtain ⟨-, -, hlines, -⟩ := compact_lines hrules Sample.build_onLiterals hhost
  refine ⟨_, Sample.build_onLiterals, hfound, ?_⟩
  rw [hfound] at hlines
  refine hlines.mpr fun d _ x hx q hq => ?_
  obtain rfl := List.mem_singleton.mp hx
  obtain ⟨n, -, hconstant, -⟩ := hq
  rw [Sample.eq_of_constant_querying hconstant, Sample.not_mem_query_iff]
  decide

/-- **A query on two lines is quoted on two lines.** The host supplies no line break in a path, name or text,
and yet the text of the finding holds one, and the compact form has two lines for one finding. -/
theorem quoted_query_breaks_line :
    ∃ a, Sample.onLiterals.build = .ok a ∧
      ¬ (∀ snapshots : List Snapshot,
          (∀ x ∈ snapshots, ∀ b ∈ Text.lineBreaks, HostLacks b x.unit x.symbols.model) →
          ∀ d ∈ (a.analyzeSnapshots snapshots).diagnostics, ∀ b ∈ Text.lineBreaks, b ∉ d.display.toList) ∧
      ¬ (∀ snapshots : List Snapshot,
          (∀ x ∈ snapshots, ∀ b ∈ Text.lineBreaks, HostLacks b x.unit x.symbols.model) →
          (Format.compact.render (snapshots.map (·.unit)) (a.analyzeSnapshots snapshots)).text.toList.count '\n' =
            (a.analyzeSnapshots snapshots).diagnostics.length) := by
  have hfound := Sample.diagnostics_querying "\n" (by decide)
  have hhost : ∀ x ∈ [Sample.querying (Sample.query "\n")], ∀ b ∈ Text.lineBreaks,
      HostLacks b x.unit x.symbols.model :=
    List.forall_mem_singleton.mpr fun b hb => Sample.hostLacks_querying _ hb
  have hquery : '\n' ∈ (Sample.query "\n").toList := by
    rw [← not_not (a := _ ∈ _), Sample.not_mem_query_iff]
    decide
  have hfeed : '\n' ∈ (Sample.tooClever "\n").display.toList := by
    simp only [Diagnostic.display, Sample.tooClever, String.toList_append, List.mem_append, hquery, true_or,
      or_true]
  refine ⟨_, Sample.build_onLiterals, fun h => ?_, fun h => ?_⟩
  · have hdisplay := h _ hhost
    rw [hfound] at hdisplay
    exact hdisplay _ (.head _) '\n' (.head _) hfeed
  · have hlines := h _ hhost
    rw [Format.render, Output.ofLines, Report.count_unlines, Report.compact, hfound] at hlines
    have hnone : (Sample.tooClever "\n").display.toList.count '\n' = 0 := by simpa using hlines
    exact List.count_eq_zero.mp hnone hfeed

end LayerLint
