import LayerLint.Proofs.Faults
import LayerLint.Proofs.Sizes
import Mathlib.Data.Set.Card

/-!
# `Proofs.Keywords` — logic in a literal is counted word by word

The logic of a literal is the number of places in it where a keyword stands on its own, that is, between
separators or ends of the literal. The scanner does not look for places: it first asks whether any keyword occurs
at all, inside a word or not, and only then cuts the literal at separators and compares the pieces. Both ways
give the same number, because they agree on texts without separators, and a separator adds up what is on its two
sides.

## Contents
- **Places.** `Text.StandsIn`, a word on its own; `Text.places`, and what a separator does to them
  (`Text.encard_places_append_sep`).
- **Pieces.** The places are as many as the pieces that are words (`Text.encard_places`).
- **Literals.** `Scan.keywordPlaces`, and that the scanner counts them, with its first question or without it.
- **Rule.** `UnitContext.complexQueries`, raised by the rule.
- **Result.** `query_logic_exact`.
-/

namespace LayerLint

namespace Text

/-! ## Places -/

/-- A place in a text: what stands there, and what is before and after it. -/
structure Place where
  before : List Char
  word : List Char
  after : List Char

/-- The same place in a text that goes on at both ends. -/
def Place.within (front back : List Char) (q : Place) : Place := ⟨front ++ q.before, q.word, q.after ++ back⟩

theorem Place.within_injective (front back : List Char) : Function.Injective (within front back) := by
  rintro ⟨before, word, after⟩ ⟨before', word', after'⟩ h
  obtain ⟨hbefore, rfl, hafter⟩ := Place.mk.inj h
  obtain rfl : before = before' := List.append_cancel_left hbefore
  obtain rfl : after = after' := List.append_cancel_right hafter
  rfl

variable (sep : Char → Bool) (p : List Char → Bool)

/-- **A word on its own**: at each of its sides there is a separator or an end of the text. -/
structure StandsIn (text : List Char) (q : Place) : Prop where
  text : text = q.before ++ q.word ++ q.after
  word : p q.word = true
  left : ∀ c ∈ q.before.getLast?, sep c = true
  right : ∀ c ∈ q.after.head?, sep c = true

/-- The places of a text where a word of some kind stands on its own. -/
def places (text : List Char) : Set Place := {q | StandsIn sep p text q}

variable {sep p}
variable {c : Char} {a b : List Char} {q : Place}

theorem StandsIn.of_left (hc : sep c = true) (h : StandsIn sep p a q) :
    StandsIn sep p (a ++ c :: b) (q.within [] (c :: b)) where
  text := by
    rw [h.text]
    simp [Place.within]
  word := h.word
  left := h.left
  right := by
    intro d hd
    cases hafter : q.after with
    | nil =>
        rw [Place.within, hafter] at hd
        obtain rfl : c = d := Option.some.inj hd
        exact hc
    | cons e rest =>
        rw [Place.within, hafter] at hd
        obtain rfl : e = d := Option.some.inj hd
        exact h.right e (by rw [hafter]; rfl)

theorem StandsIn.of_right (hc : sep c = true) (h : StandsIn sep p b q) :
    StandsIn sep p (a ++ c :: b) (q.within (a ++ [c]) []) where
  text := by
    rw [h.text]
    simp [Place.within]
  word := h.word
  left := by
    intro d hd
    rw [Place.within, List.getLast?_append] at hd
    cases hbefore : q.before.getLast? with
    | none =>
        rw [hbefore] at hd
        obtain rfl : c = d := by simpa using hd
        exact hc
    | some e =>
        rw [hbefore] at hd
        obtain rfl : e = d := Option.some.inj hd
        exact h.left e hbefore
  right := by
    intro d hd
    rw [Place.within, List.append_nil] at hd
    exact h.right d hd

/-- A character that is not in a word stands before the word or after it. -/
theorem exists_of_append_eq_append_cons {x w t : List Char} (hout : c ∉ w) (h : x ++ w = a ++ c :: t) :
    ∃ r, x = a ++ c :: r ∧ t = r ++ w := by
  rcases List.append_eq_append_iff.mp h with ⟨r, -, rfl⟩ | ⟨r, rfl, hr⟩
  · exact absurd (List.mem_append_right _ List.mem_cons_self) hout
  · cases r with
    | nil =>
        rw [List.nil_append] at hr
        exact absurd (hr ▸ List.mem_cons_self) hout
    | cons d r =>
        obtain ⟨rfl, rfl⟩ := List.cons.inj hr
        exact ⟨r, rfl, rfl⟩

section

variable (hp : ∀ w, p w = true → ∀ x ∈ w, sep x = false) (hc : sep c = true)
include hp hc

/-- A word without separators stands on one side of a separator. -/
theorem StandsIn.left_or_right (h : StandsIn sep p (a ++ c :: b) q) :
    (∃ q', StandsIn sep p a q' ∧ q'.within [] (c :: b) = q) ∨
      ∃ q', StandsIn sep p b q' ∧ q'.within (a ++ [c]) [] = q := by
  obtain ⟨before, word, after⟩ := q
  obtain ⟨htext, hword, hleft, hright⟩ := h
  dsimp only at htext hword hleft hright
  have hout : c ∉ word := by
    intro hmem
    rw [hp word hword c hmem] at hc
    cases hc
  rcases List.append_eq_append_iff.mp htext with ⟨t, hbefore, ht⟩ | ⟨t, rfl, rfl⟩
  · cases t with
    | nil =>
        -- the separator follows the word at once
        obtain rfl : a = before ++ word := by simpa using hbefore.symm
        obtain rfl : after = c :: b := by simpa using ht.symm
        exact .inl ⟨⟨before, word, []⟩, ⟨by simp, hword, hleft, nofun⟩, by simp [Place.within]⟩
    | cons d t =>
        obtain ⟨rfl, rfl⟩ := List.cons.inj ht
        obtain ⟨r, rfl, rfl⟩ := exists_of_append_eq_append_cons hout hbefore
        refine .inr ⟨⟨r, word, after⟩, ⟨rfl, hword, ?_, hright⟩, by simp [Place.within]⟩
        intro e he
        exact hleft e (by rw [List.getLast?_append, List.getLast?_cons, show r.getLast? = some e from he]; rfl)
  · refine .inl ⟨⟨before, word, t⟩, ⟨rfl, hword, hleft, ?_⟩, by simp [Place.within]⟩
    intro e he
    exact hright e (by rw [List.head?_append, show t.head? = some e from he]; rfl)

theorem places_append_sep : places sep p (a ++ c :: b) =
    Place.within [] (c :: b) '' places sep p a ∪ Place.within (a ++ [c]) [] '' places sep p b := by
  ext q
  constructor
  · exact StandsIn.left_or_right hp hc
  · rintro (⟨q, hq, rfl⟩ | ⟨q, hq, rfl⟩)
    · exact StandsIn.of_left hc hq
    · exact StandsIn.of_right hc hq

/-- **A separator adds up the places on its two sides**, which have none in common. -/
theorem encard_places_append_sep :
    (places sep p (a ++ c :: b)).encard = (places sep p a).encard + (places sep p b).encard := by
  have hdisjoint : Disjoint (Place.within [] (c :: b) '' places sep p a)
      (Place.within (a ++ [c]) [] '' places sep p b) := by
    refine Set.disjoint_left.mpr ?_
    rintro _ ⟨q, hq, rfl⟩ ⟨q', -, heq⟩
    have hbefore : (a ++ [c]) ++ q'.before = q.before := (Place.mk.inj heq).1
    have hlength := congrArg List.length hq.text
    rw [← hbefore] at hlength
    simp only [List.length_append, List.length_singleton] at hlength
    omega
  rw [places_append_sep hp hc, Set.encard_union_eq hdisjoint, (Place.within_injective _ _).encard_image,
    (Place.within_injective _ _).encard_image]

end

/-! ## Pieces -/

/-- In a text without separators only the whole text stands on its own. -/
theorem StandsIn.eq_whole {s : List Char} (h : ∀ x ∈ s, sep x = false) (hq : StandsIn sep p s q) :
    q = ⟨[], s, []⟩ := by
  obtain ⟨before, word, after⟩ := q
  obtain ⟨rfl, -, hleft, hright⟩ := hq
  dsimp only at hleft hright h ⊢
  have hbefore : before = [] := by
    rw [← List.getLast?_eq_none_iff, Option.eq_none_iff_forall_ne_some]
    intro d hd
    have hnot := h d (by simp [List.mem_of_getLast? hd])
    rw [hleft d hd] at hnot
    cases hnot
  have hafter : after = [] := by
    rw [← List.head?_eq_none_iff, Option.eq_none_iff_forall_ne_some]
    intro d hd
    have hnot := h d (by simp [List.mem_of_head? hd])
    rw [hright d hd] at hnot
    cases hnot
  simp [hbefore, hafter]

theorem encard_places_of_forall_not {s : List Char} (h : ∀ x ∈ s, sep x = false) :
    (places sep p s).encard = if p s = true then 1 else 0 := by
  by_cases hs : p s = true
  · have hone : places sep p s = {⟨[], s, []⟩} := by
      ext q
      constructor
      · exact fun hq => hq.eq_whole h
      · rintro rfl
        exact ⟨by simp, hs, nofun, nofun⟩
    rw [hone, Set.encard_singleton, if_pos hs]
  · have hnone : places sep p s = ∅ := by
      refine Set.eq_empty_of_forall_notMem fun q hq => hs ?_
      have hword := hq.word
      rwa [hq.eq_whole h] at hword
    rw [hnone, Set.encard_empty, if_neg hs]

/-- **There are as many places as pieces that are words.** The induction is on the length of the text, which
is cut at any one of its separators. -/
theorem encard_places (hp : ∀ w, p w = true → ∀ x ∈ w, sep x = false) (s : List Char) :
    (places sep p s).encard = (pieces sep s).countP p := by
  by_cases h : ∀ x ∈ s, sep x = false
  · rw [encard_places_of_forall_not h, pieces_of_forall_not h, List.countP_singleton]
    split <;> rfl
  · push Not at h
    obtain ⟨c, hmem, hc⟩ := h
    obtain ⟨a, b, rfl⟩ := List.append_of_mem hmem
    have hc : sep c = true := by simpa using hc
    rw [encard_places_append_sep hp hc, pieces_append_sep hc, List.countP_append, encard_places hp a,
      encard_places hp b, Nat.cast_add]
termination_by s.length

end Text

/-! ## Literals -/

namespace Scan

/-- **Where logic keywords stand as words** in a literal. -/
def keywordPlaces (literal : String) : Set Text.Place :=
  Text.places isWordSeparator (fun word => sqlLogicKeywords.contains (String.ofList word)) literal.toList

/-- No keyword holds a separator. -/
theorem isWordSeparator_of_mem_keyword {word : List Char}
    (hword : sqlLogicKeywords.contains (String.ofList word) = true) : ∀ c ∈ word, isWordSeparator c = false := by
  have hall : sqlLogicKeywords.all (·.toList.all fun c => !isWordSeparator c) = true := by decide +kernel
  simpa using List.all_eq_true.mp hall _ (List.contains_iff_mem.mp hword)

theorem encard_keywordPlaces (literal : String) :
    (keywordPlaces literal).encard = (words literal).countP sqlLogicKeywords.contains := by
  rw [keywordPlaces, Text.encard_places fun _ hword => isWordSeparator_of_mem_keyword hword, words,
    List.countP_map]
  rfl

theorem ncard_keywordPlaces (literal : String) :
    (keywordPlaces literal).ncard = (words literal).countP sqlLogicKeywords.contains := by
  rw [Set.ncard_def, encard_keywordPlaces, ENat.toNat_natCast]

/-- The first question hides nothing: a keyword that stands somewhere occurs. -/
theorem keywordPlaces_eq_empty {literal : String}
    (h : sqlLogicKeywords.any (Text.occursIn · literal) = false) : keywordPlaces literal = ∅ := by
  refine Set.eq_empty_of_forall_notMem fun q hq => ?_
  have hmem := List.contains_iff_mem.mp hq.word
  have hnot := List.any_eq_false.mp h _ hmem
  refine hnot (Text.occursInChars_iff.mpr ⟨q.before, q.after, ?_⟩)
  rw [String.toList_ofList]
  exact hq.text

/-- **The scanner counts the places of keywords.** -/
theorem queryLogicCount?_getD (literal : String) :
    (queryLogicCount? literal).getD 0 = (keywordPlaces literal).ncard := by
  unfold queryLogicCount?
  cases h : sqlLogicKeywords.any (Text.occursIn · literal) with
  | false => rw [keywordPlaces_eq_empty h, Set.ncard_empty]; rfl
  | true => exact (ncard_keywordPlaces literal).symm

/-- A separator adds up the logic on its two sides. -/
theorem ncard_keywordPlaces_append {c : Char} (hc : isWordSeparator c = true) (a b : String) :
    (keywordPlaces (a ++ String.singleton c ++ b)).ncard = (keywordPlaces a).ncard + (keywordPlaces b).ncard := by
  have htext : (a ++ String.singleton c ++ b).toList = a.toList ++ c :: b.toList := by simp
  simp only [ncard_keywordPlaces, words]
  rw [htext, Text.pieces_append_sep hc, List.map_append, List.countP_append]

end Scan

/-! ## Rule -/

/-- The literals at any depth in the first blocks of the methods, constructors and operators of a class. -/
def Node.literals (cls : Node) : List Node :=
  (cls.children.filter fun m => m.kind ∈ [Kind.methodDecl, .constructorDecl, .operatorDecl]).flatMap fun m =>
    (m.children.filter (·.kind == .block)).head?.elim [] fun body =>
      (preorderAll body.children).filter (·.kind == .literal)

namespace UnitContext

/-- What is said of a literal whose text, in lower case, has more logic than the limit. A literal of another
kind, or one that is not resolved, has no text. -/
noncomputable def complexQuery? (u : UnitContext) (literal : Node) : Option Issue :=
  match u.model.constant literal with
  | some (.text value) =>
      let logic := (Scan.keywordPlaces (Text.lower value)).ncard
      if u.settings.thresholds.maxQueryLogicKeywords < logic then
        some ⟨literal.span,
          [Text.lower value, toString logic, toString u.settings.thresholds.maxQueryLogicKeywords]⟩
      else none
  | _ => none

/-- The literals with too much logic in the classes of a unit that are named like a repository. -/
noncomputable def complexQueries (u : UnitContext) : List Issue :=
  ((u.unit.root.nodesOf .classDecl).filter fun n => containsToken n.name u.settings.vocabulary.repository).flatMap
    fun cls => cls.literals.filterMap u.complexQuery?

end UnitContext

namespace Catalog

theorem bodyLiterals_eq (cls : Node) : bodyLiterals cls = cls.literals := by
  have hlike : cls.members.filter (·.kind.isMethodLike) =
      cls.children.filter fun m => m.kind ∈ [Kind.methodDecl, .constructorDecl, .operatorDecl] := by
    refine List.filter_congr fun m _ => ?_
    cases m.kind <;> rfl
  unfold bodyLiterals Metrics.methodBodies Node.literals
  rw [List.filterMap_eq_flatMap_toList, List.flatMap_assoc, hlike]
  refine List.flatMap_congr fun m _ => ?_
  rw [List.head?_filter]
  show _ = Option.elim m.body _ _
  cases m.body with
  | none => rfl
  | some body =>
      rw [Option.elim_some, ← Node.descendants_eq]
      exact List.flatMap_singleton _ _

/-- The rule finds a literal exactly if there is something to say of it. -/
theorem map_excessiveLogic? (u : UnitContext) (literal : Node) :
    (excessiveLogic? u.model u.settings.thresholds.maxQueryLogicKeywords literal).map (fun (lowered, count) =>
      Issue.mk literal.span [lowered, toString count, toString u.settings.thresholds.maxQueryLogicKeywords]) =
    u.complexQuery? literal := by
  unfold excessiveLogic? UnitContext.complexQuery?
  rcases u.model.constant literal with _ | (_ | _ | _ | value)
  case some.text =>
    simp only [Constant.text?, Option.bind_eq_bind, Option.bind_some, ← Scan.queryLogicCount?_getD]
    cases Scan.queryLogicCount? (Text.lower value) with
    | none => rfl
    | some count =>
        rw [Option.bind_some, Option.getD_some]
        split <;> rfl
  all_goals rfl

theorem brainRepository_raises : brainRepository.Raises complexQueryLogic fun c =>
    if containsToken c.node.name c.unit.settings.vocabulary.repository then
      c.node.literals.filterMap c.unit.complexQuery? else [] := by
  refine Rule.raises_in_layer fun c => ?_
  have hissues : c.node.literals.filterMap c.unit.complexQuery? =
      ((bodyLiterals c.node).filterMap fun literal =>
        (excessiveLogic? c.model c.thresholds.maxQueryLogicKeywords literal).map (literal, ·)).map
      fun found => Issue.mk found.1.span
        [found.2.1, toString found.2.2, toString c.thresholds.maxQueryLogicKeywords] := by
    rw [List.map_filterMap, bodyLiterals_eq]
    refine List.filterMap_congr fun literal _ => ?_
    rw [← map_excessiveLogic?, Option.map_map]
    rfl
  have hholds : Layer.repository.holds c.vocabulary c.node.name =
      containsToken c.node.name c.unit.settings.vocabulary.repository := rfl
  unfold brainRepository
  dsimp only
  rw [hholds, hissues, List.mapM_map]
  rfl

end Catalog

/-! ## Result -/

/-- **Logic is judged word by word.** What the scanner counts in a literal, nothing or no answer being zero, is the
number of places where one of the keywords stands on its own; a separator adds up what is counted on its two sides.
In an analysis of a unit with the built-in rules, the findings of this kind report, one by one, the literals in the
bodies of classes named like a repository that are text constants and have, in lower case, more logic than the
limit. -/
theorem query_logic_exact :
    (∀ literal : String, (Scan.keywordPlaces literal).Finite ∧
      (Scan.queryLogicCount? literal).getD 0 = (Scan.keywordPlaces literal).ncard) ∧
    (∀ (before after : String) (c : Char), Scan.isWordSeparator c = true →
      (Scan.queryLogicCount? (before ++ String.singleton c ++ after)).getD 0 =
        (Scan.queryLogicCount? before).getD 0 + (Scan.queryLogicCount? after).getD 0) ∧
    ∀ {s : Setup} {a : Analyzer}, s.rules = Catalog.rules → s.build = .ok a →
      ∀ {unit : CompilationUnit} {model : Model} {ds : List Diagnostic}, a.analyzeUnit unit model = .ok ds →
        let u := s.unitContext unit model
        s.Reports u Catalog.complexQueryLogic u.complexQueries ds := by
  refine ⟨fun literal => ⟨?_, Scan.queryLogicCount?_getD literal⟩, fun before after c hc => ?_, ?_⟩
  · exact Set.finite_of_encard_eq_coe (Scan.encard_keywordPlaces literal)
  · rw [Scan.queryLogicCount?_getD, Scan.queryLogicCount?_getD, Scan.queryLogicCount?_getD,
      Scan.ncard_keywordPlaces_append hc]
  · intro s a hrules hbuild unit model ds hds u
    obtain ⟨-, rfl⟩ := s.build_eq_ok_iff.mp hbuild
    rw [UnitContext.complexQueries, Setup.flatMap_filter_eq]
    exact Setup.reports_nodes hrules (by simp [Catalog.rules]) (List.mem_singleton.mpr rfl) rfl
      (fun u n => if containsToken n.name u.settings.vocabulary.repository then
        n.literals.filterMap u.complexQuery? else [])
      Catalog.brainRepository_raises hds

namespace Sample

/-- A repository with two queries in one method: both have two words of logic and one word that only begins
like one, and the second has a keyword more, at its very end. -/
def queries : CompilationUnit where
  path := "PedidoAlmacen.cs"
  root := .mk { kind := .compilationUnit }
    [.mk { kind := .classDecl, identifier := some "PedidoAlmacen" }
      [.mk { kind := .methodDecl, identifier := some "Buscar" }
        [.mk { kind := .block }
          [.mk { id := 1, kind := .literal, span := .lines 3 3 } [],
           .mk { kind := .invocation } [.mk { id := 2, kind := .literal, span := .lines 4 4 } []]]]]]

def queryTable : SymbolTable where
  constants := .ofList [(1, .text "SELECT a FROM t WHERE(x) ORDER BY a"),
    (2, .text "SELECT a FROM t WHERE(x) ORDER BY OR")]

theorem complexQueries_queries :
    (house.unitContext queries queryTable.model).complexQueries =
      [⟨.lines 4 4, ["select a from t where(x) order by or", "3", "2"]⟩] := by
  have hquery := funext (Catalog.map_excessiveLogic? (house.unitContext queries queryTable.model))
  unfold UnitContext.complexQueries
  rw [← hquery]
  decide +kernel

end Sample

/-- Only the query with a third keyword is reported. -/
theorem query_logic_exact_sample :
    Scan.isWordSeparator '(' = true ∧
    (Scan.queryLogicCount? "x in(1 or 2)").getD 0 =
      (Scan.queryLogicCount? "x in").getD 0 + (Scan.queryLogicCount? "1 or 2)").getD 0 ∧
    Sample.house.build = .ok Sample.house.analyzer ∧
    ∃ ds, Sample.house.analyzer.analyzeUnit Sample.queries Sample.queryTable.model = .ok ds ∧
      ds.filter (·.code == "RA10-001") =
        [Sample.issued Catalog.complexQueryLogic "PedidoAlmacen.cs" 4 1
          "Query \"select a from t where(x) order by or\" has 3 logic keywords (limit 2)"] := by
  have hall : ∀ c ∈ Sample.house.calls Sample.queries Sample.queryTable.model, ∃ ds, c.run = .ok ds :=
    Call.exists_ok_of_all_isOk (by decide +kernel)
  have hds := Sample.house.analyzeUnit_of_all_ok hall
  have hactive : Sample.house.activates Catalog.complexQueryLogic = true := by decide +kernel
  obtain ⟨-, hsum, hreports⟩ := query_logic_exact
  have hqueries := hreports rfl Sample.build_house hds
  dsimp only at hqueries
  rw [Sample.complexQueries_queries] at hqueries
  exact ⟨rfl, hsum "x in" "1 or 2)" '(' rfl, Sample.build_house, _, hds,
    hqueries.filter_eq hactive (by decide +kernel) (List.pairwise_singleton _ _)⟩

end LayerLint
