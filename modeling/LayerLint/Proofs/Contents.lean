import LayerLint.Proofs.Faults
import LayerLint.Proofs.LiteralMatches
import LayerLint.Proofs.Reporting

/-!
# `Proofs.Contents` — forbidden content is found however it is spelled

The texts of units are lower-cased as a whole before they are searched. Tags and commands are plain ASCII, and of
ASCII characters lower-casing takes no account of neighbours, so a tag or command in capitals, in small letters or in
both is found whatever stands around it. What is found does not depend on the class that is looked at, so each class
of the layer gets one finding.

## Contents
- **Spellings.** A respelled token is found (`Scan.occursIn_respelled`), and the first one found comes no later in
  the table (`Scan.exists_firstToken?`).
- **Classes.** `Rule.raises_at_identifier`, for rules that look up the place of a class first;
  `UnitContext.contentIssues`, and the five rules that raise them.
- **Result.** `CompilationUnit.Spells`, `Setup.TellsContent`; `respelled_content_reported`.
-/

namespace LayerLint

/-! ## Spellings -/

namespace Text

/-- Only ASCII characters have a lower case by core's rule that is one. -/
theorem toNat_lt_of_toLower {c : Char} (h : c.toLower.toNat < 0x80) : c.toNat < 0x80 := by
  unfold Char.toLower at h
  split at h
  · next hcapital =>
      obtain ⟨-, hlast⟩ := hcapital
      have hle : c.toNat ≤ 0x5A := hlast
      omega
  · exact h

/-- The lower case of an ASCII text does not depend on where it stands. -/
theorem lowerBetween_of_ascii {s : List Char} (h : ∀ c ∈ s, c.toNat < 0x80) (before after : List Char) :
    lowerBetween before s after = s.map Char.toLower := by
  induction s generalizing before with
  | nil => rfl
  | cons c s ih =>
      obtain ⟨hc, hs⟩ := List.forall_mem_cons.mp h
      have hsigma : c ≠ 'Σ' := by
        rintro rfl
        exact absurd hc (by decide)
      have hdotted : c ≠ 'İ' := by
        rintro rfl
        exact absurd hc (by decide)
      rw [lowerBetween, ih hs, lowerAt, if_neg hsigma, if_neg hdotted, lowerChar, if_pos hc]
      rfl

end Text

namespace Scan

variable {table : List String} {token text : String}

/-- Tags and commands are ASCII texts in lower case. -/
theorem plain_of_mem (htable : table ∈ [htmlTags, sqlTokens]) (htoken : token ∈ table) :
    ∀ c ∈ token.toList, c.toNat < 0x80 ∧ c.toLower = c := by
  have hall : (htmlTags ++ sqlTokens).all (·.toList.all fun c => Nat.blt c.toNat 0x80 && c.toLower == c) := by
    decide +kernel
  have htables : token ∈ htmlTags ++ sqlTokens := by
    rcases List.mem_cons.mp htable with rfl | htable
    · exact List.mem_append_left _ htoken
    · exact List.mem_append_right _ (List.mem_singleton.mp htable ▸ htoken)
  intro c hc
  have hplain := List.all_eq_true.mp (List.all_eq_true.mp hall token htables) c hc
  simpa using hplain

/-- **A respelled token occurs** in the lower case of any text around it. -/
theorem occursIn_respelled {spelling : String} (hplain : ∀ c ∈ token.toList, c.toNat < 0x80 ∧ c.toLower = c)
    (hspelling : Text.sameIgnoringCase spelling token = true) (before after : String) :
    Text.occursIn token (Text.lower (before ++ spelling ++ after)) = true := by
  have hlower : spelling.toList.map Char.toLower = token.toList := by
    rw [beq_iff_eq.mp hspelling]
    exact (List.map_congr_left fun c hc => (hplain c hc).2).trans (List.map_id _)
  have hascii : ∀ c ∈ spelling.toList, c.toNat < 0x80 := by
    intro c hc
    have hmem : c.toLower ∈ token.toList := hlower ▸ List.mem_map_of_mem hc
    exact Text.toNat_lt_of_toLower (hplain _ hmem).1
  rw [Text.occursIn, Text.occursInChars_iff, Text.toList_lower_append, Text.lowerBetween_of_ascii hascii, hlower]
  exact ⟨_, _, rfl⟩

/-- The first token found comes no later than any other that occurs. -/
theorem exists_firstToken? (htoken : token ∈ table) (hoccurs : Text.occursIn token text = true) :
    ∃ first, firstToken? table text = some first ∧ table.idxOf first ≤ table.idxOf token := by
  unfold firstToken?
  induction table with
  | nil => cases htoken
  | cons x table ih =>
      by_cases hx : Text.occursIn x text = true
      · refine ⟨x, List.find?_cons_of_pos (p := (Text.occursIn · text)) hx, ?_⟩
        rw [List.idxOf_cons_self]
        exact Nat.zero_le _
      · have hne : token ≠ x := fun heq => hx (heq ▸ hoccurs)
        obtain ⟨first, hfirst, hle⟩ := ih (List.mem_of_ne_of_mem hne htoken)
        have hfound : first ≠ x := fun heq => hx (heq ▸ List.find?_some (p := (Text.occursIn · text)) hfirst)
        refine ⟨first, (List.find?_cons_of_neg (p := (Text.occursIn · text)) hx).trans hfirst, ?_⟩
        rw [List.idxOf_cons_ne _ hfound.symm, List.idxOf_cons_ne _ hne.symm]
        exact Nat.succ_le_succ hle

end Scan

/-! ## Classes -/

section

variable {u : UnitContext} {desc : Descriptor}

/-- Issues at a place that can be computed are all reported there. -/
theorem Issue.mapM_report_at {span : Span} {location : Location} (h : u.location span = .ok location)
    (args : List (List String)) :
    (args.map (Issue.mk span)).mapM (report u desc) = .ok (args.map (desc.diagnostic location)) := by
  induction args with
  | nil => rfl
  | cons x args ih =>
      have hreport : report u desc ⟨span, x⟩ = .ok (desc.diagnostic location x) := by
        rw [report, h]
        rfl
      rw [List.map_cons, List.mapM_cons, hreport, ih]
      rfl

/-- **A rule that first looks up the place of its node** raises, of each kind of finding, what it reports there. -/
theorem Rule.raises_at_identifier {r : Rule} {layer : NodeContext → Bool} {args : NodeContext → List (List String)}
    {found : NodeContext → Location → List Diagnostic}
    (hcheck : ∀ c, r.check c = if !layer c then pure [] else do return found c (← c.identifierLocation c.node))
    (hfound : ∀ c location, (found c location).filter (·.code == desc.id) = (args c).map (desc.diagnostic location)) :
    r.Raises desc fun c => if layer c then (args c).map (Issue.mk c.node.identifierSpan) else [] := by
  intro c _ ds hds
  show List.mapM _ (if layer c then _ else _) = _
  rw [hcheck] at hds
  cases hlayer : layer c with
  | false =>
      rw [hlayer] at hds
      obtain rfl : [] = ds := Except.ok.inj hds
      rfl
  | true =>
      rw [hlayer] at hds
      cases hlocation : c.identifierLocation c.node with
      | error e => rw [hlocation] at hds; cases hds
      | ok location =>
          rw [hlocation] at hds
          obtain rfl : found c location = ds := Except.ok.inj hds
          rw [hfound]
          exact Issue.mapM_report_at hlocation (args c)

/-- Findings of a kind have its code. -/
theorem Descriptor.filter_code_self {α : Type} (location : Location) (args : α → List String) (xs : List α) :
    (xs.map fun x => desc.diagnostic location (args x)).filter (·.code == desc.id) =
      xs.map fun x => desc.diagnostic location (args x) :=
  List.filter_eq_self.mpr (List.forall_mem_map.mpr fun _ _ => beq_self_eq_true _)

/-- Findings of another kind have another code. -/
theorem Descriptor.filter_code_other (other : Descriptor) (hne : other.id ≠ desc.id) {ds : List Diagnostic}
    (hds : ∀ d ∈ ds, d.code = other.id) : ds.filter (·.code == desc.id) = [] :=
  List.filter_eq_nil_iff.mpr fun d hd heq => hne ((hds d hd).symm.trans (beq_iff_eq.mp heq))

end

/-- What is said of a class in a unit with forbidden content: its name and what was found. -/
def Node.contentIssue (cls : Node) (token : String) : Issue := ⟨cls.identifierSpan, [cls.name, token]⟩

namespace UnitContext

/-- A layer of classes, by their names or by the path of the unit. -/
abbrev Classes := UnitContext → Node → Bool

/-- What is said of a class of a layer if the text of the unit holds a token of a table. -/
def contentIssues (u : UnitContext) (table : List String) (layer : Classes) (cls : Node) : List Issue :=
  if layer u cls then (Scan.firstToken? table u.loweredText).toList.map cls.contentIssue else []

/-- The classes of units whose path belongs to a layer. -/
def ofPath (l : Layer) : Classes := fun u _ => l.holds u.settings.vocabulary u.unit.path

/-- The classes named like models. -/
def namedModel : Classes := fun u cls => isModelBySuffix u.settings.vocabulary cls.name

/-- The classes named like controllers. -/
def namedController : Classes := fun u cls => Layer.controller.holds u.settings.vocabulary cls.name

end UnitContext

theorem Rule.raises_content {r : Rule} {desc : Descriptor} {table : List String} {layer : UnitContext.Classes}
    (found : NodeContext → Location → List Diagnostic)
    (hcheck : ∀ c, r.check c = if !layer c.unit c.node then pure [] else do
      return found c (← c.identifierLocation c.node))
    (hfound : ∀ c location, (found c location).filter (·.code == desc.id) =
      (Scan.firstToken? table c.unit.loweredText).toList.map (desc.diagnostic location [c.node.name, ·])) :
    r.Raises desc fun c => c.unit.contentIssues table layer c.node := by
  have h : r.Raises desc fun c => if layer c.unit c.node then
      ((Scan.firstToken? table c.unit.loweredText).toList.map ([c.node.name, ·])).map
        (Issue.mk c.node.identifierSpan) else [] := by
    apply raises_at_identifier hcheck
    intro c location
    rw [hfound, List.map_map]
    rfl
  simp only [List.map_map] at h
  exact h

namespace Catalog

/-- What is found in a controller or a view: the first command, then at most one reference to data access. -/
def accessFindings (sql access : Descriptor) (c : NodeContext) (location : Location) : List Diagnostic :=
  (Scan.firstToken? Scan.sqlTokens c.unit.loweredText).toList.map (sql.diagnostic location [c.node.name, ·]) ++
    if c.node.members.any (Scan.referencesDataAccess c.model) then [access.diagnostic location [c.node.name]] else []

theorem filter_code_accessFindings {sql access : Descriptor} (hne : access.id ≠ sql.id) (c : NodeContext)
    (location : Location) : (accessFindings sql access c location).filter (·.code == sql.id) =
      (Scan.firstToken? Scan.sqlTokens c.unit.loweredText).toList.map (sql.diagnostic location [c.node.name, ·]) := by
  have haccess : ∀ d ∈ (if c.node.members.any (Scan.referencesDataAccess c.model) then
      [access.diagnostic location [c.node.name]] else []), d.code = access.id := by
    split
    · exact List.forall_mem_singleton.mpr rfl
    · exact nofun
  rw [accessFindings, List.filter_append, Descriptor.filter_code_self,
    Descriptor.filter_code_other access hne haccess, List.append_nil]

theorem controllerModel_raises_sql : controllerModel.Raises sqlInController fun c =>
    c.unit.contentIssues Scan.sqlTokens (UnitContext.ofPath .controller) c.node := by
  apply Rule.raises_content (accessFindings sqlInController dataAccessInController)
  · intro c
    unfold controllerModel
    dsimp only
    rfl
  · exact filter_code_accessFindings (by decide)

theorem viewModel_raises_sql : viewModel.Raises sqlInView fun c =>
    c.unit.contentIssues Scan.sqlTokens (UnitContext.ofPath .view) c.node := by
  apply Rule.raises_content (accessFindings sqlInView dataAccessInView)
  · intro c
    unfold viewModel
    dsimp only
    rfl
  · exact filter_code_accessFindings (by decide)

/-- What is found in a service: the first command, then every import. -/
def serviceFindings (c : NodeContext) (location : Location) : List Diagnostic :=
  (Scan.firstToken? Scan.sqlTokens c.unit.loweredText).toList.map
      (sqlInService.diagnostic location [c.node.name, ·]) ++
    (dataAccessImports c.unit.unit).map (dataAccessImportInService.diagnostic location [c.node.name, ·])

theorem meddlingService_check (c : NodeContext) :
    meddlingService.check c = if !UnitContext.ofPath .service c.unit c.node then pure [] else do
      return serviceFindings c (← c.identifierLocation c.node) := by
  unfold meddlingService
  dsimp only
  rfl

theorem meddlingService_raises_sql : meddlingService.Raises sqlInService fun c =>
    c.unit.contentIssues Scan.sqlTokens (UnitContext.ofPath .service) c.node := by
  apply Rule.raises_content serviceFindings meddlingService_check
  intro c location
  rw [serviceFindings, List.filter_append, Descriptor.filter_code_self,
    Descriptor.filter_code_other dataAccessImportInService (by decide) (List.forall_mem_map.mpr fun _ _ => rfl), List.append_nil]

/-- This rule reports tags first. -/
theorem modelView_raises_sql : modelView.Raises sqlInModel fun c =>
    c.unit.contentIssues Scan.sqlTokens UnitContext.namedModel c.node := by
  apply Rule.raises_content fun c location =>
    (Scan.allTokens Scan.htmlTags c.unit.loweredText).map (htmlInModel.diagnostic location [c.node.name, ·]) ++
      (Scan.firstToken? Scan.sqlTokens c.unit.loweredText).toList.map
        (sqlInModel.diagnostic location [c.node.name, ·])
  · intro c
    unfold modelView
    dsimp only
    rfl
  · intro c location
    rw [List.filter_append, Descriptor.filter_code_self, Descriptor.filter_code_other htmlInModel (by decide)
      (List.forall_mem_map.mpr fun _ _ => rfl), List.nil_append]

/-- This rule looks up the place of a class only if there is something to report. -/
theorem controllerView_raises_html : controllerView.Raises htmlInController fun c =>
    c.unit.contentIssues Scan.htmlTags UnitContext.namedController c.node := by
  show controllerView.Raises htmlInController fun c => if UnitContext.namedController c.unit c.node then
    (Scan.firstToken? Scan.htmlTags c.unit.loweredText).toList.map c.node.contentIssue else []
  apply Rule.raises_in_layer
  intro c
  have hholds : Layer.controller.holds c.vocabulary c.node.name = UnitContext.namedController c.unit c.node := rfl
  unfold controllerView
  dsimp only
  rw [hholds]
  cases Scan.firstToken? Scan.htmlTags c.unit.loweredText with
  | none => rfl
  | some tag =>
      rw [Option.toList_some, List.map_singleton, Issue.mapM_report_singleton]
      rfl

end Catalog

/-! ## Result -/

/-- The text of a unit holds a token of a table, in small letters, capitals or both. -/
def CompilationUnit.Spells (unit : CompilationUnit) (table : List String) (token : String) : Prop :=
  token ∈ table ∧ ∃ before spelling after, Text.sameIgnoringCase spelling token = true ∧
    unit.text = before ++ spelling ++ after

namespace Setup

/-- **Content is told of**: if the text of the unit holds a token of the table, each class of the layer gets one
finding of the kind, and other classes get none. They all name the first token that is found. -/
def TellsContent (s : Setup) (u : UnitContext) (desc : Descriptor) (table : List String)
    (layer : UnitContext.Classes) (ds : List Diagnostic) : Prop :=
  ∀ token, u.unit.Spells table token → ∃ first, Scan.firstToken? table u.loweredText = some first ∧
    s.Reports u desc (((u.unit.root.nodesOf .classDecl).filter (layer u)).map (·.contentIssue first)) ds

variable {s : Setup} {r : Rule} {desc : Descriptor} {table : List String} {layer : UnitContext.Classes}
variable {unit : CompilationUnit} {model : Model} {ds : List Diagnostic}

theorem tellsContent (hrules : s.rules = Catalog.rules) (hr : r ∈ Catalog.rules) (hdesc : desc ∈ r.descriptors)
    (hkinds : r.kinds = [.classDecl]) (htable : table ∈ [Scan.htmlTags, Scan.sqlTokens])
    (hraises : r.Raises desc fun c => c.unit.contentIssues table layer c.node)
    (hds : s.analyzer.analyzeUnit unit model = .ok ds) :
    s.TellsContent (s.unitContext unit model) desc table layer ds := by
  intro token hspells
  obtain ⟨htoken, before, spelling, after, hspelling, htext⟩ := hspells
  have hoccurs : Text.occursIn token (s.unitContext unit model).loweredText = true := by
    rw [UnitContext.loweredText, htext]
    exact Scan.occursIn_respelled (Scan.plain_of_mem htable htoken) hspelling before after
  obtain ⟨first, hfirst, -⟩ := Scan.exists_firstToken? htoken hoccurs
  have hissues : (s.unitContext unit model).contentIssues table layer =
      fun cls => if layer (s.unitContext unit model) cls then [cls.contentIssue first] else [] := by
    funext cls
    rw [UnitContext.contentIssues, hfirst]
    rfl
  refine ⟨first, hfirst, ?_⟩
  rw [List.map_eq_flatMap, flatMap_filter_eq, ← hissues]
  exact reports_nodes hrules hr hdesc hkinds (fun u n => u.contentIssues table layer n) hraises hds

end Setup

/-- **Respelled content is reported.** A tag or command is found in the lower case of every text that holds it, in
small letters, capitals or both, and the first token found is the first of all that are found and comes no later in
the table. So an analysis with the built-in rules tells of commands in the units of controllers, views and services
and in the classes named like models, and of tags in the classes named like controllers. -/
theorem respelled_content_reported :
    (∀ table ∈ [Scan.htmlTags, Scan.sqlTokens], ∀ token ∈ table, ∀ before spelling after : String,
      Text.sameIgnoringCase spelling token = true →
        let text := Text.lower (before ++ spelling ++ after)
        token ∈ Scan.allTokens table text ∧
        ∃ first, Scan.firstToken? table text = some first ∧ (Scan.allTokens table text).head? = some first ∧
          table.idxOf first ≤ table.idxOf token) ∧
    ∀ {s : Setup} {a : Analyzer}, s.rules = Catalog.rules → s.build = .ok a →
      ∀ {unit : CompilationUnit} {model : Model} {ds : List Diagnostic}, a.analyzeUnit unit model = .ok ds →
        let u := s.unitContext unit model
        s.TellsContent u Catalog.sqlInController Scan.sqlTokens (UnitContext.ofPath .controller) ds ∧
        s.TellsContent u Catalog.sqlInView Scan.sqlTokens (UnitContext.ofPath .view) ds ∧
        s.TellsContent u Catalog.sqlInService Scan.sqlTokens (UnitContext.ofPath .service) ds ∧
        s.TellsContent u Catalog.sqlInModel Scan.sqlTokens UnitContext.namedModel ds ∧
        s.TellsContent u Catalog.htmlInController Scan.htmlTags UnitContext.namedController ds := by
  constructor
  · intro table htable token htoken before spelling after hspelling text
    have hoccurs : Text.occursIn token text = true :=
      Scan.occursIn_respelled (Scan.plain_of_mem htable htoken) hspelling before after
    obtain ⟨first, hfirst, hle⟩ := Scan.exists_firstToken? htoken hoccurs
    exact ⟨List.mem_filter.mpr ⟨htoken, hoccurs⟩, first, hfirst,
      (Scan.head?_allTokens table text).trans hfirst, hle⟩
  · intro s a hrules hbuild unit model ds hds u
    obtain ⟨-, rfl⟩ := s.build_eq_ok_iff.mp hbuild
    have hhtml : Scan.htmlTags ∈ [Scan.htmlTags, Scan.sqlTokens] := .head _
    have hsql : Scan.sqlTokens ∈ [Scan.htmlTags, Scan.sqlTokens] := .tail _ (.head _)
    refine ⟨?_, ?_, ?_, ?_, ?_⟩
    · exact Setup.tellsContent hrules (by simp [Catalog.rules]) (.head _) rfl hsql
        Catalog.controllerModel_raises_sql hds
    · exact Setup.tellsContent hrules (by simp [Catalog.rules]) (.head _) rfl hsql Catalog.viewModel_raises_sql hds
    · exact Setup.tellsContent hrules (by simp [Catalog.rules]) (.head _) rfl hsql
        Catalog.meddlingService_raises_sql hds
    · exact Setup.tellsContent hrules (by simp [Catalog.rules]) (.tail _ (.head _)) rfl hsql
        Catalog.modelView_raises_sql hds
    · exact Setup.tellsContent hrules (by simp [Catalog.rules]) (.head _) rfl hhtml
        Catalog.controllerView_raises_html hds

namespace Sample

/-- A controller and a model in a unit of the controllers. Its text has a command and a tag in mixed case, between
letters whose lower case is longer or depends on what is next to them. -/
def respelled : CompilationUnit where
  path := "Mandos/Pedido.cs"
  text := "ΟΔΟΣSeLecTİ <DiV>Σ"
  root := .mk { kind := .compilationUnit }
    [.mk { kind := .classDecl, identifier := some "PedidoMando" } [],
     .mk { kind := .classDecl, identifier := some "PedidoModelo" } []]

end Sample

/-- Both classes get a finding for the command by the path, and by their names the model another one and the
controller one for the tag. -/
theorem respelled_content_reported_sample :
    Sample.house.build = .ok Sample.house.analyzer ∧
    ∃ ds, Sample.house.analyzer.analyzeUnit Sample.respelled Sample.model = .ok ds ∧
      Sample.respelled.Spells Scan.sqlTokens "select" ∧ Sample.respelled.Spells Scan.htmlTags "<div" ∧
      ds.filter (·.code == "RA06-001") =
        [Sample.issued Catalog.sqlInController "Mandos/Pedido.cs" 0 0
          "Controller 'PedidoMando' contains the SQL command 'select'",
         Sample.issued Catalog.sqlInController "Mandos/Pedido.cs" 0 0
          "Controller 'PedidoModelo' contains the SQL command 'select'"] ∧
      ds.filter (·.code == "RA01-002") =
        [Sample.issued Catalog.sqlInModel "Mandos/Pedido.cs" 0 0
          "Model 'PedidoModelo' contains the SQL command 'select'"] ∧
      ds.filter (·.code == "RA05-001") =
        [Sample.issued Catalog.htmlInController "Mandos/Pedido.cs" 0 0
          "Controller 'PedidoMando' contains the HTML tag '<div'"] := by
  have hall : ∀ c ∈ Sample.house.calls Sample.respelled Sample.model, ∃ ds, c.run = .ok ds :=
    Call.exists_ok_of_all_isOk (by decide +kernel)
  have hds := Sample.house.analyzeUnit_of_all_ok hall
  have hselect : Sample.respelled.Spells Scan.sqlTokens "select" :=
    ⟨by decide, "ΟΔΟΣ", "SeLecT", "İ <DiV>Σ", by decide, by decide⟩
  have hdiv : Sample.respelled.Spells Scan.htmlTags "<div" :=
    ⟨by decide, "ΟΔΟΣSeLecTİ ", "<DiV", ">Σ", by decide, by decide⟩
  have hcommand : Scan.firstToken? Scan.sqlTokens
      (Sample.house.unitContext Sample.respelled Sample.model).loweredText = some "select" := by decide +kernel
  have htag : Scan.firstToken? Scan.htmlTags
      (Sample.house.unitContext Sample.respelled Sample.model).loweredText = some "<div" := by decide +kernel
  obtain ⟨-, htells⟩ := respelled_content_reported
  obtain ⟨hcontroller, -, -, hmodel, hhtml⟩ := htells rfl Sample.build_house hds
  obtain ⟨_, hfirst, hcontroller⟩ := hcontroller "select" hselect
  obtain rfl := Option.some.inj (hcommand.symm.trans hfirst)
  obtain ⟨_, hfirst, hmodel⟩ := hmodel "select" hselect
  obtain rfl := Option.some.inj (hcommand.symm.trans hfirst)
  obtain ⟨_, hfirst, hhtml⟩ := hhtml "<div" hdiv
  obtain rfl := Option.some.inj (htag.symm.trans hfirst)
  refine ⟨Sample.build_house, _, hds, hselect, hdiv, ?_, ?_, ?_⟩
  · exact hcontroller.filter_eq (by decide +kernel) (by decide +kernel) (by decide +kernel)
  · exact hmodel.filter_eq (by decide +kernel) (by decide +kernel) (List.pairwise_singleton _ _)
  · exact hhtml.filter_eq (by decide +kernel) (by decide +kernel) (List.pairwise_singleton _ _)

end LayerLint
