import LayerLint.ConfigFile
import LayerLint.Proofs.RoundTrip
import LayerLint.Proofs.TomlStatements
import Mathlib.Data.List.Nodup

/-!
# `Proofs.ConfigText` — what a configuration file sets is what it says

A file gives some keys their values, in tables of its own choice of order, among comments, blank lines and keys
that mean nothing, whose values may be any that TOML has. It is accepted, and the configuration has exactly the
values given, and the default wherever none is given, whether the table is missing or the key in it.

## Contents
- **Files.** `Assignment`, `Assignment.Lays` for the tables of a file, and `Assignment.Written` for its text.
- **Tables.** What the tables of a file hold under the keys that mean something.
- **Sections.** How each section is read, key by key.
- **Rules.** The headers of rules imply one table, which is read as the switches.
- **Every assignment can be written.** `Assignment.exists_written`.
- **Result.** `config_text_parses`.
-/

namespace LayerLint

open Toml (Apart Body Entries Item Statement)

namespace ConfigFile

/-! ## Files -/

/-- The tables of a configuration file. -/
inductive Table where
  | analyzer
  | naming
  | thresholds
  | rule (key : String)
  deriving DecidableEq

namespace Table

/-- The names in the header. -/
def path : Table → List String
  | analyzer => ["analyzer"]
  | naming => ["naming"]
  | thresholds => ["thresholds"]
  | rule key => ["rules", key]

/-- The keys that mean something in the table. -/
def keys : Table → List String
  | analyzer => ["parallelism"]
  | naming => ({} : Vocabulary).entries.map (·.1)
  | thresholds => ({} : Thresholds).entries.map (·.1)
  | rule _ => ["enabled"]

end Table

/-- **A partial assignment**: a value for some of the keys, and a switch, maybe left open, for some rules. -/
structure Assignment where
  parallelism : Option (Fin signedBound) := none
  naming : String → Option String := fun _ => none
  thresholds : String → Option (Fin signedBound) := fun _ => none
  switches : List (String × Option Bool) := []
  nodup : (switches.map (·.1)).Nodup := by decide

namespace Assignment

variable (a : Assignment)

/-- The switch that is given for a rule. -/
def switch (key : String) : Option Bool := (a.switches.lookup key).join

/-- The value given for a key of a table. -/
def value? : Table → String → Option Toml.Value
  | .analyzer, _ => a.parallelism.map fun n => .integer n.val
  | .naming, k => (a.naming k).map .string
  | .thresholds, k => (a.thresholds k).map fun n => .integer n.val
  | .rule key, _ => (a.switch key).map .boolean

/-- **The tables lay out the assignment.** Each is there at most once, and is there if it has something to say;
there is a table for every rule with a switch and for no other rule. In each the entries can stand together, an
entry for a key that means something is there exactly if a value is given, and any other key begins with a name
that means nothing. -/
structure Lays (tables : List (Table × Body)) : Prop where
  nodup : (tables.map (·.1)).Nodup
  complete : ∀ t, (∃ k ∈ t.keys, a.value? t k ≠ none) → t ∈ tables.map (·.1)
  rules : ∀ key, .rule key ∈ tables.map (·.1) ↔ key ∈ a.switches.map (·.1)
  compatible : ∀ e ∈ tables, e.2.Compatible
  given : ∀ e ∈ tables, ∀ k ∈ e.1.keys, ∀ v, ([k], v) ∈ e.2 ↔ a.value? e.1 k = some v
  unknown : ∀ e ∈ tables, ∀ x ∈ e.2, ∀ k ∈ e.1.keys, x.1.head? = some k → x.1 = [k]

/-- The statements of tables. -/
def statements (tables : List (Table × Body)) : List Statement :=
  tables.flatMap fun e => (⟨e.1.path, e.2⟩ : Toml.Section).statements

/-- **The text writes the assignment**: as tables that lay it out, in any order, among blank lines and
comments. -/
def Written (doc : String) : Prop := ∃ tables, a.Lays tables ∧ Toml.SpellsLines (statements tables) doc.toList

end Assignment

/-! ## Tables -/

/-- No header continues another one. -/
theorem Table.apart {t u : Table} (h : t ≠ u) : Apart t.path u.path := by
  cases t <;> cases u <;> simp_all [path, Toml.apart_cons_iff]

theorem Table.path_ne_nil (t : Table) : t.path ≠ [] := by
  cases t <;> exact List.cons_ne_nil _ _

/-- The root table that tables make. -/
def root (tables : List (Table × Body)) : Entries :=
  Toml.Entries.putAll .implied (tables.map fun e => (e.1.path, .table .header e.2.entries)) []

namespace Assignment

variable {a : Assignment} {tables : List (Table × Body)}

theorem Lays.apart (h : a.Lays tables) : (tables.map (·.1.path)).Pairwise Apart := by
  have hpaths : tables.map (·.1.path) = (tables.map (·.1)).map Table.path := by rw [List.map_map]; rfl
  rw [hpaths, List.pairwise_map]
  exact h.nodup.imp Table.apart

/-- **The text of an assignment** is read as the tables that lay it out. -/
theorem Lays.parse (h : a.Lays tables) {doc : String} (hdoc : Toml.SpellsLines (statements tables) doc.toList) :
    Toml.parse doc = some (Toml.entryValues (root tables)) := by
  have hbuild := @Toml.build_sections (tables.map fun e => ⟨e.1.path, e.2⟩)
    (List.forall_mem_map.mpr h.compatible)
    (List.forall_mem_map.mpr fun e _ => e.1.path_ne_nil) (by rw [List.map_map]; exact h.apart)
  rw [List.flatMap_map, List.map_map] at hbuild
  rw [Toml.parse, Toml.statements_spells hdoc]
  exact hbuild

/-- In a table of the file a key that means something has the value given for it. -/
theorem Lays.lookup_body (h : a.Lays tables) {t : Table} {body : Body} (he : (t, body) ∈ tables) {k : String}
    (hk : k ∈ t.keys) : (Toml.entryValues body.entries).lookup k = a.value? t k := by
  have hgiven := h.given _ he k hk
  have hapart : (body.items.map (·.1)).Pairwise Apart := by
    have hsame : body.items.map (·.1) = body.map (·.1) := by rw [Body.items, List.map_map]; rfl
    rw [hsame]
    exact (h.compatible _ he).apart
  rw [Toml.lookup_entryValues]
  cases hvalue : a.value? t k with
  | some v =>
      have hmem : ([k], Item.value v) ∈ body.items :=
        List.mem_map.mpr ⟨([k], v), (hgiven v).mpr hvalue, rfl⟩
      rw [Body.entries, Toml.Entries.lookup_putAll_of_mem hapart hmem]
      rfl
  | none =>
      -- an entry that begins with the key would be an entry for the key
      have hne : ∀ x ∈ body.items, x.1.head? ≠ some k := by
        intro x hx hhead
        obtain ⟨⟨key, v⟩, hentry, rfl⟩ := List.mem_map.mp hx
        obtain rfl : key = [k] := h.unknown _ he _ hentry k hk hhead
        have hsome := (hgiven v).mp hentry
        rw [hvalue] at hsome
        cases hsome
      rw [Body.entries, Toml.Entries.lookup_putAll_of_ne hne]
      rfl

/-- **A section is found as its table**, or not at all, and then nothing is given for its keys. -/
theorem Lays.lookup_root (h : a.Lays tables) {t : Table} {name : String} (hpath : t.path = [name]) :
    (∃ es, (Toml.entryValues (root tables)).lookup name = some (.table es) ∧
      ∀ k ∈ t.keys, es.lookup k = a.value? t k) ∨
    (Toml.entryValues (root tables)).lookup name = none ∧ ∀ k ∈ t.keys, a.value? t k = none := by
  rw [Toml.lookup_entryValues]
  by_cases hmem : t ∈ tables.map (·.1)
  · obtain ⟨⟨_, body⟩, he, rfl⟩ := List.mem_map.mp hmem
    have hitem : ([name], Item.table .header body.entries) ∈
        tables.map fun e => (e.1.path, Item.table .header e.2.entries) :=
      List.mem_map.mpr ⟨_, he, by rw [← hpath]⟩
    have hapart : ((tables.map fun e => (e.1.path, Item.table .header e.2.entries)).map (·.1)).Pairwise Apart := by
      rw [List.map_map]
      exact h.apart
    refine .inl ⟨Toml.entryValues body.entries, ?_, fun k hk => h.lookup_body he hk⟩
    rw [root, Toml.Entries.lookup_putAll_of_mem hapart hitem, Option.map_some, Toml.Item.toValue]
  · refine .inr ⟨?_, fun k hk => ?_⟩
    · have hne : ∀ x ∈ tables.map (fun e => (e.1.path, Item.table .header e.2.entries)),
          x.1.head? ≠ some name := by
        rw [List.forall_mem_map]
        intro e he hhead
        -- only the table itself has this name
        have hother : e.1 ≠ t := fun heq => hmem (heq ▸ List.mem_map_of_mem he)
        have hapart := Table.apart hother
        obtain ⟨rest, hrest⟩ := List.head?_eq_some_iff.mp hhead
        dsimp only at hrest
        rw [hrest, hpath] at hapart
        exact hapart.2 ⟨rest, rfl⟩
      rw [root, Toml.Entries.lookup_putAll_of_ne hne]
      rfl
    · by_contra hsome
      exact hmem (h.complete t ⟨k, hk, hsome⟩)

end Assignment

/-! ## Sections -/

theorem withDefault_text (d : String) (s : Option String) :
    withDefault d readText (s.map .string) = some (s.getD d) := by
  cases s <;> rfl

theorem withDefault_count (d : Nat) (n : Option (Fin signedBound)) :
    withDefault d readCount (n.map fun n => .integer n.val) = some ((n.map Fin.val).getD d) := by
  cases n with
  | none => rfl
  | some n => simp [withDefault, readCount]

theorem optional_count (n : Option (Fin signedBound)) :
    optional readCount (n.map fun n => .integer n.val) = some (n.map Fin.val) := by
  cases n with
  | none => rfl
  | some n => simp [optional, readCount]

theorem optional_bool (b : Option Bool) : optional readBool (b.map .boolean) = some b := by
  cases b <;> rfl

theorem readParallelism_table {es : List (String × Toml.Value)} {n : Option (Fin signedBound)}
    (h : es.lookup "parallelism" = n.map fun n => .integer n.val) :
    readParallelism (.table es) = some (n.map Fin.val) := by
  simp [readParallelism, fields, h, optional_count]

/-- Tokens are read from a table key by key. -/
theorem readVocabulary_table {es : List (String × Toml.Value)} {token : String → Option String}
    (h : ∀ k ∈ Table.naming.keys, es.lookup k = (token k).map .string) :
    ∃ v, readVocabulary (.table es) = some v ∧
      v.entries = ({} : Vocabulary).entries.map fun e => (e.1, (token e.1).getD e.2) := by
  simp only [Table.keys, Vocabulary.entries, List.map_cons, List.map_nil, List.forall_mem_cons] at h
  obtain ⟨h1, h2, h3, h4, h5, h6, h7, h8, h9, -⟩ := h
  simp [readVocabulary, fields, Vocabulary.entries, h1, h2, h3, h4, h5, h6, h7, h8, h9, withDefault_text]

/-- Limits are read from a table key by key. -/
theorem readThresholds_table {es : List (String × Toml.Value)} {limit : String → Option (Fin signedBound)}
    (h : ∀ k ∈ Table.thresholds.keys, es.lookup k = (limit k).map fun n => .integer n.val) :
    ∃ t, readThresholds (.table es) = some t ∧
      t.entries = ({} : Thresholds).entries.map fun e => (e.1, ((limit e.1).map Fin.val).getD e.2) := by
  simp only [Table.keys, Thresholds.entries, List.map_cons, List.map_nil, List.forall_mem_cons] at h
  obtain ⟨h1, h2, h3, h4, h5, h6, h7, h8, h9, -⟩ := h
  simp [readThresholds, fields, Thresholds.entries, h1, h2, h3, h4, h5, h6, h7, h8, h9, withDefault_count]

/-! ## Rules -/

/-- What a table adds to the table of rules. -/
def Table.ruleEntry (item : Item) : Table → Entries
  | rule key => [(key, item)]
  | analyzer | naming | thresholds => []

/-- The tables of rules, by the keys of the rules. -/
def ruleTables (tables : List (Table × Body)) : Entries :=
  tables.flatMap fun e => e.1.ruleEntry (.table .header e.2.entries)

/-- The table of rules is missing as long as it is empty; headers below it imply it. -/
def HasRules (es rules : Entries) : Prop :=
  es.lookup "rules" = if rules = [] then none else some (.table .implied rules)

theorem HasRules.inner {es rules : Entries} (h : HasRules es rules) : es.inner "rules" = rules := by
  rw [Toml.Entries.inner, h]
  by_cases hnil : rules = []
  · rw [if_pos hnil, hnil]
  · rw [if_neg hnil]

/-- One table of the file adds its own to the table of rules. -/
theorem HasRules.put {es rules : Entries} (h : HasRules es rules) {t : Table} {item : Item}
    (hnew : ∀ key, t = .rule key → rules.lookup key = none) :
    HasRules (Toml.Entries.put .implied item t.path es) (rules ++ t.ruleEntry item) := by
  cases t with
  | rule key =>
      have hset : rules.set key item = rules ++ [(key, item)] :=
        Toml.Entries.set_of_lookup_eq_none (hnew key rfl) item
      rw [HasRules, Table.path, Toml.Entries.put, Toml.Entries.put, h.inner, Toml.Entries.lookup_set_self, hset,
        Table.ruleEntry, if_neg (by simp)]
  | analyzer | naming | thresholds =>
      rw [HasRules, Table.ruleEntry, List.append_nil, Table.path, Toml.Entries.lookup_put_of_ne (by decide)]
      exact h

/-- A table leaves the entries of other rules alone. -/
theorem Table.lookup_ruleEntry {t : Table} {item : Item} {key : String} (h : t ≠ .rule key) :
    (t.ruleEntry item).lookup key = none := by
  cases t with
  | rule other =>
      have hne : (key == other) = false := beq_eq_false_iff_ne.mpr fun heq => h (heq ▸ rfl)
      rw [ruleEntry, List.lookup_cons, hne]
      rfl
  | analyzer | naming | thresholds => rfl

theorem hasRules_putAll {tables : List (Table × Body)} (hnodup : (tables.map (·.1)).Nodup) {es rules : Entries}
    (h : HasRules es rules) (hnew : ∀ key, .rule key ∈ tables.map (·.1) → rules.lookup key = none) :
    HasRules (Toml.Entries.putAll .implied (tables.map fun e => (e.1.path, .table .header e.2.entries)) es)
      (rules ++ ruleTables tables) := by
  -- table by table: the rules that are still to come have no table yet
  induction tables generalizing es rules with
  | nil =>
      rw [ruleTables, List.flatMap_nil, List.append_nil]
      exact h
  | cons e tables ih =>
      rw [List.map_cons, List.nodup_cons] at hnodup
      have hnext : HasRules (Toml.Entries.put .implied (.table .header e.2.entries) e.1.path es)
          (rules ++ e.1.ruleEntry (.table .header e.2.entries)) :=
        h.put fun key hkey => hnew key (hkey ▸ .head _)
      have hstill : ∀ key, .rule key ∈ tables.map (·.1) →
          (rules ++ e.1.ruleEntry (.table .header e.2.entries)).lookup key = none := by
        intro key hkey
        have hother : e.1 ≠ .rule key := fun heq => hnodup.1 (heq ▸ hkey)
        rw [List.lookup_append, hnew key (.tail _ hkey), Table.lookup_ruleEntry hother]
        rfl
      have hall := ih hnodup.2 hnext hstill
      rw [ruleTables, List.flatMap_cons, ← List.append_assoc]
      exact hall

/-- The section on rules is read rule by rule. -/
theorem readSwitch_table {es : List (String × Toml.Value)} {b : Option Bool}
    (h : es.lookup "enabled" = b.map .boolean) : readSwitch (.table es) = some b := by
  simp [readSwitch, fields, h, optional_bool]

/-- Switches that can be read are read in order. -/
theorem readSwitches_table {es : List (String × Toml.Value)} {switch : String → Option Bool}
    (h : ∀ e ∈ es, readSwitch e.2 = some (switch e.1)) :
    readSwitches (.table es) = some ((es.map (·.1)).map fun k => (k, switch k)) := by
  have hread : es.mapM (fun e => (readSwitch e.2).bind fun b => some (e.1, b)) =
      some ((es.map (·.1)).map fun k => (k, switch k)) := by
    induction es with
    | nil => rfl
    | cons e es ih =>
        obtain ⟨he, hes⟩ := List.forall_mem_cons.mp h
        simp [List.mapM_cons, he, ih hes]
  exact hread

/-- The rule that a table is for. -/
def Table.ruleKey? : Table → Option String
  | rule key => some key
  | analyzer | naming | thresholds => none

theorem map_fst_ruleTables (tables : List (Table × Body)) :
    (ruleTables tables).map (·.1) = (tables.map (·.1)).filterMap Table.ruleKey? := by
  induction tables with
  | nil => rfl
  | cons e tables ih =>
      obtain ⟨t, body⟩ := e
      cases t with
      | rule key => exact congrArg (key :: ·) ih
      | analyzer | naming | thresholds => exact ih

theorem mem_ruleTables {tables : List (Table × Body)} {key : String} {item : Item}
    (h : (key, item) ∈ ruleTables tables) :
    ∃ body, (Table.rule key, body) ∈ tables ∧ item = .table .header body.entries := by
  obtain ⟨⟨t, body⟩, he, hitem⟩ := List.mem_flatMap.mp h
  cases t with
  | rule other =>
      obtain ⟨rfl, rfl⟩ := Prod.mk.inj (List.mem_singleton.mp hitem)
      exact ⟨body, he, rfl⟩
  | analyzer | naming | thresholds => cases hitem

/-- Where no key comes twice, each is found with its own value. -/
theorem lookup_of_nodup {l : List (String × Option Bool)} (h : (l.map (·.1)).Nodup) {e : String × Option Bool}
    (he : e ∈ l) : l.lookup e.1 = some e.2 := by
  induction l with
  | nil => cases he
  | cons first l ih =>
      rw [List.map_cons, List.nodup_cons] at h
      rcases List.mem_cons.mp he with rfl | he
      · exact List.lookup_cons_self
      · have hne : (e.1 == first.1) = false :=
          beq_eq_false_iff_ne.mpr fun heq => h.1 (heq ▸ List.mem_map_of_mem he)
        rw [List.lookup_cons, hne]
        exact ih h.2 he

namespace Assignment

variable {a : Assignment} {tables : List (Table × Body)}

/-- **The section on rules** is read as the switches of the rules that have a table. -/
theorem Lays.readSwitches (h : a.Lays tables) :
    withDefault [] ConfigFile.readSwitches ((Toml.entryValues (root tables)).lookup "rules") =
      some (((ruleTables tables).map (·.1)).map fun key => (key, a.switch key)) := by
  have hrules : HasRules (root tables) (ruleTables tables) := by
    have hempty : HasRules [] [] := rfl
    exact hasRules_putAll h.nodup hempty fun _ _ => rfl
  rw [Toml.lookup_entryValues, hrules]
  by_cases hnil : ruleTables tables = []
  · rw [if_pos hnil, hnil]
    rfl
  · have hswitch : ∀ e ∈ Toml.entryValues (ruleTables tables), readSwitch e.2 = some (a.switch e.1) := by
      rw [Toml.entryValues_eq_map, List.forall_mem_map]
      rintro ⟨key, item⟩ hitem
      obtain ⟨body, hbody, rfl⟩ := mem_ruleTables hitem
      exact readSwitch_table (h.lookup_body hbody (.head _))
    have hkeys : (Toml.entryValues (ruleTables tables)).map (·.1) = (ruleTables tables).map (·.1) := by
      rw [Toml.entryValues_eq_map, List.map_map]
      rfl
    rw [if_neg hnil, Option.map_some, Toml.Item.toValue]
    rw [withDefault, readSwitches_table hswitch, hkeys]

/-- The rules with a table are those with a switch. -/
theorem Lays.perm_keys (h : a.Lays tables) :
    ((ruleTables tables).map (·.1)).Perm (a.switches.map (·.1)) := by
  have hinj : ∀ t u : Table, ∀ key ∈ t.ruleKey?, key ∈ u.ruleKey? → t = u := by
    intro t u key ht hu
    cases t <;> cases u <;> simp_all [Table.ruleKey?]
  rw [map_fst_ruleTables]
  refine (List.perm_ext_iff_of_nodup (List.Nodup.filterMap hinj h.nodup) a.nodup).mpr fun key => ?_
  rw [← h.rules key, List.mem_filterMap]
  constructor
  · rintro ⟨t, ht, hkey⟩
    cases t with
    | rule other => exact Option.some.inj hkey ▸ ht
    | analyzer | naming | thresholds => cases hkey
  · intro hmem
    exact ⟨_, hmem, rfl⟩

/-- A switch that is listed is the one that is given. -/
theorem map_switch (a : Assignment) :
    (a.switches.map (·.1)).map (fun key => (key, a.switch key)) = a.switches := by
  have hsame : a.switches.map ((fun key => (key, a.switch key)) ∘ (·.1)) = a.switches.map id := by
    refine List.map_congr_left fun e he => ?_
    show (e.1, (a.switches.lookup e.1).join) = e
    rw [lookup_of_nodup a.nodup he]
    rfl
  rw [List.map_map, hsame, List.map_id]

end Assignment

/-! ## Every assignment can be written -/

theorem spellsDigits_self {isDigit : Char → Bool} : ∀ {ds : List Char}, ds ≠ [] → (∀ d ∈ ds, isDigit d = true) →
    Toml.SpellsDigits isDigit ds ds
  | [d], _, h => .one (h d (.head _))
  | d :: d' :: ds, _, h =>
      .cons (h d (.head _)) (spellsDigits_self (List.cons_ne_nil d' ds) fun x hx => h x (.tail _ hx))

theorem runValue_toDigits (n : Nat) : Toml.runValue 10 (Nat.toDigits 10 n) = n := by
  have hdigits := (Json.Number.isDigits_toDigits n).2
  have hsame : Toml.runValue 10 (Nat.toDigits 10 n) = Json.Number.digitsValue (Nat.toDigits 10 n) := by
    unfold Toml.runValue Json.Number.digitsValue
    refine List.foldl_ext _ _ _ fun m d hd => ?_
    rw [Toml.digitValue, if_pos (hdigits d hd)]
  rw [hsame, Json.Number.digitsValue_toDigits]

/-- A count is written in decimal digits. -/
theorem spellsInteger_toDigits (n : Fin signedBound) : Toml.SpellsInteger n.val (Nat.toDigits 10 n.val) := by
  have hvalue := runValue_toDigits n.val
  obtain ⟨hne, hdigits⟩ := Json.Number.isDigits_toDigits n.val
  have hdecimal : Toml.SpellsDecimal (Nat.toDigits 10 n.val) (Nat.toDigits 10 n.val) := by
    by_cases hzero : n.val = 0
    · rw [hzero]
      exact .zero
    · exact .run (spellsDigits_self hne hdigits) (Json.Number.head?_toDigits (Nat.pos_of_ne_zero hzero))
  have hinteger := Toml.SpellsInteger.positive .absent hdecimal (hvalue.symm ▸ n.isLt)
  rwa [hvalue] at hinteger

/-- The headers of a file that has every section. -/
def headers (switches : List (String × Option Bool)) : List Table :=
  .analyzer :: .naming :: .thresholds :: switches.map fun e => .rule e.1

theorem rule_mem_headers_iff {switches : List (String × Option Bool)} {key : String} :
    .rule key ∈ headers switches ↔ key ∈ switches.map (·.1) := by
  simp [headers]

theorem nodup_headers {switches : List (String × Option Bool)} (h : (switches.map (·.1)).Nodup) :
    (headers switches).Nodup := by
  have hrules : (switches.map fun e => Table.rule e.1).Nodup := by
    have hmap := h.map (f := Table.rule) fun _ _ => Table.rule.inj
    rwa [List.map_map] at hmap
  simp [headers, hrules]

theorem Table.nodup_keys (t : Table) : t.keys.Nodup := by
  cases t with
  | analyzer | rule key => exact List.nodup_singleton _
  | naming | thresholds => decide +kernel

theorem Table.length_path_lt (t : Table) : t.path.length < Toml.maxDepth := by
  cases t <;> exact of_decide_eq_true rfl

namespace Assignment

variable (a : Assignment)

/-- The values that are given can be written. -/
theorem exists_spells {t : Table} {k : String} {v : Toml.Value} (h : a.value? t k = some v) (depth : Nat) :
    ∃ w, Toml.Spells depth (.value v) w := by
  cases t with
  | analyzer =>
      obtain ⟨n, -, rfl⟩ := Option.map_eq_some_iff.mp h
      exact ⟨_, .plain (.integer (spellsInteger_toDigits n))⟩
  | naming =>
      obtain ⟨s, -, rfl⟩ := Option.map_eq_some_iff.mp h
      obtain ⟨t, ht⟩ := Toml.Quoted.exists_spellsBasic s.toList
      have hstring : Toml.Spells depth (.value (.string (String.ofList s.toList))) ('"' :: (t ++ ['"'])) :=
        .string (.basic ht)
      rw [String.ofList_toList] at hstring
      exact ⟨_, hstring⟩
  | thresholds =>
      obtain ⟨n, -, rfl⟩ := Option.map_eq_some_iff.mp h
      exact ⟨_, .plain (.integer (spellsInteger_toDigits n))⟩
  | rule key =>
      obtain ⟨b, -, rfl⟩ := Option.map_eq_some_iff.mp h
      cases b with
      | true => exact ⟨_, .plain .yes⟩
      | false => exact ⟨_, .plain .no⟩

/-- The entries for the keys of a table that have a value. -/
def body (t : Table) : Body := t.keys.filterMap fun k => (a.value? t k).map fun v => ([k], v)

theorem mem_body_iff {t : Table} {key : List String} {v : Toml.Value} :
    (key, v) ∈ a.body t ↔ ∃ k ∈ t.keys, a.value? t k = some v ∧ key = [k] := by
  simp only [body, List.mem_filterMap, Option.map_eq_some_iff, Prod.mk.injEq]
  constructor
  · rintro ⟨k, hk, w, hw, rfl, rfl⟩
    exact ⟨k, hk, hw, rfl⟩
  · rintro ⟨k, hk, hv, rfl⟩
    exact ⟨k, hk, v, hv, rfl, rfl⟩

/-- The tables in order, the rules last. -/
def tables : List (Table × Body) := (headers a.switches).map fun t => (t, a.body t)

theorem map_fst_tables : a.tables.map (·.1) = headers a.switches := by
  rw [tables, List.map_map]
  exact List.map_id _

theorem compatible_body (t : Table) : (a.body t).Compatible where
  named := by
    rintro ⟨key, v⟩ he
    obtain ⟨k, -, -, rfl⟩ := a.mem_body_iff.mp he
    exact List.cons_ne_nil k []
  apart := by
    rw [body, List.pairwise_map, List.pairwise_filterMap]
    refine t.nodup_keys.imp fun {j k} hne e he e' he' => ?_
    obtain ⟨v, -, rfl⟩ := Option.map_eq_some_iff.mp he
    obtain ⟨v', -, rfl⟩ := Option.map_eq_some_iff.mp he'
    exact Toml.apart_cons_iff.mpr (.inl hne)

/-- The tables in order lay out the assignment. -/
theorem lays_tables : a.Lays a.tables where
  nodup := by
    rw [map_fst_tables]
    exact nodup_headers a.nodup
  complete := by
    rw [map_fst_tables]
    rintro t ⟨k, -, hk⟩
    cases t with
    | analyzer | naming | thresholds => simp [headers]
    | rule key =>
        rw [rule_mem_headers_iff]
        by_contra hmem
        have hlookup : a.switches.lookup key = none := List.lookup_eq_none_iff.mpr fun e he => by
          simpa using fun heq : key = e.1 => hmem (heq ▸ List.mem_map_of_mem he)
        apply hk
        simp [value?, switch, hlookup]
  rules := by
    rw [map_fst_tables]
    exact fun key => rule_mem_headers_iff
  compatible := by
    rw [tables, List.forall_mem_map]
    exact fun t _ => a.compatible_body t
  given := by
    rw [tables, List.forall_mem_map]
    intro t _ k hk v
    rw [mem_body_iff]
    constructor
    · rintro ⟨j, -, hj, heq⟩
      obtain rfl : k = j := (List.cons.inj heq).1
      exact hj
    · intro hv
      exact ⟨k, hk, hv, rfl⟩
  unknown := by
    rw [tables, List.forall_mem_map]
    rintro t _ ⟨key, v⟩ hx k hk hhead
    obtain ⟨j, -, -, rfl⟩ := a.mem_body_iff.mp hx
    rw [Option.some.inj hhead]

/-- **Every assignment can be written.** -/
theorem exists_written : ∃ doc, a.Written doc := by
  have hspells : ∀ st ∈ statements a.tables, ∃ w, Toml.SpellsStatement st w := by
    intro st hst
    obtain ⟨_, he, hst⟩ := List.mem_flatMap.mp hst
    obtain ⟨t, -, rfl⟩ := List.mem_map.mp he
    rcases List.mem_cons.mp hst with rfl | hentry
    · obtain ⟨w, hw⟩ := Toml.exists_spellsKey t.path_ne_nil
      exact ⟨_, .header hw t.length_path_lt⟩
    · obtain ⟨⟨key, v⟩, hmem, rfl⟩ := List.mem_map.mp hentry
      obtain ⟨k, -, hv, rfl⟩ := a.mem_body_iff.mp hmem
      obtain ⟨w, hw⟩ := Toml.exists_spellsKey (List.cons_ne_nil k [])
      obtain ⟨x, hx⟩ := a.exists_spells hv (Toml.maxDepth - 1)
      exact ⟨_, .entry hw (of_decide_eq_true rfl) (b := []) nofun hx⟩
  obtain ⟨t, ht⟩ := Toml.exists_spellsLines hspells
  exact ⟨String.ofList t, a.tables, a.lays_tables, by rwa [String.toList_ofList]⟩

end Assignment

/-! ## Result -/

namespace Assignment

variable {a : Assignment} {tables : List (Table × Body)}

theorem Lays.readParallelism (h : a.Lays tables) :
    withDefault none ConfigFile.readParallelism ((Toml.entryValues (root tables)).lookup "analyzer") =
      some (a.parallelism.map Fin.val) := by
  rcases h.lookup_root (t := .analyzer) rfl with ⟨es, htable, hes⟩ | ⟨hmissing, hnone⟩
  · rw [htable, withDefault]
    exact readParallelism_table (hes _ (.head _))
  · have hopen : a.parallelism = none := Option.map_eq_none_iff.mp (hnone _ (.head _))
    rw [hmissing, hopen]
    rfl

theorem Lays.readVocabulary (h : a.Lays tables) :
    ∃ v, withDefault {} ConfigFile.readVocabulary ((Toml.entryValues (root tables)).lookup "naming") = some v ∧
      v.entries = ({} : Vocabulary).entries.map fun e => (e.1, (a.naming e.1).getD e.2) := by
  rcases h.lookup_root (t := .naming) rfl with ⟨es, htable, hes⟩ | ⟨hmissing, hnone⟩
  · rw [htable]
    exact readVocabulary_table hes
  · refine ⟨{}, by rw [hmissing]; rfl, ?_⟩
    -- without the table every token keeps its default
    have hopen : ∀ e ∈ ({} : Vocabulary).entries, (e.1, (a.naming e.1).getD e.2) = e := by
      intro e he
      rw [Option.map_eq_none_iff.mp (hnone e.1 (List.mem_map_of_mem he))]
      rfl
    rw [List.map_congr_left hopen, List.map_id']

theorem Lays.readThresholds (h : a.Lays tables) :
    ∃ t, withDefault {} ConfigFile.readThresholds ((Toml.entryValues (root tables)).lookup "thresholds") = some t ∧
      t.entries = ({} : Thresholds).entries.map fun e => (e.1, ((a.thresholds e.1).map Fin.val).getD e.2) := by
  rcases h.lookup_root (t := .thresholds) rfl with ⟨es, htable, hes⟩ | ⟨hmissing, hnone⟩
  · rw [htable]
    exact readThresholds_table hes
  · refine ⟨{}, by rw [hmissing]; rfl, ?_⟩
    have hopen : ∀ e ∈ ({} : Thresholds).entries, (e.1, ((a.thresholds e.1).map Fin.val).getD e.2) = e := by
      intro e he
      rw [Option.map_eq_none_iff.mp (hnone e.1 (List.mem_map_of_mem he))]
      rfl
    rw [List.map_congr_left hopen, List.map_id']

end Assignment

/-- **What a configuration file sets is what it says.** Every assignment of values to some of the keys can be
written as a file, and every file that writes it is read as a configuration with exactly these values, and with
the default wherever none is assigned. -/
theorem config_text_parses (a : Assignment) :
    (∃ doc, a.Written doc) ∧
    ∀ doc, a.Written doc → ∃ c, Config.parse doc = some c ∧
      c.parallelism = a.parallelism.map Fin.val ∧
      c.naming.entries = ({} : Vocabulary).entries.map (fun e => (e.1, (a.naming e.1).getD e.2)) ∧
      c.thresholds.entries =
        ({} : Thresholds).entries.map (fun e => (e.1, ((a.thresholds e.1).map Fin.val).getD e.2)) ∧
      c.switches.Perm a.switches := by
  refine ⟨a.exists_written, ?_⟩
  rintro doc ⟨tables, hlays, hdoc⟩
  -- the rules are read in the order of their tables, the rest key by key
  obtain ⟨v, hreadv, hv⟩ := hlays.readVocabulary
  obtain ⟨t, hreadt, ht⟩ := hlays.readThresholds
  have hswitches := hlays.perm_keys.map fun key => (key, a.switch key)
  rw [a.map_switch] at hswitches
  refine ⟨⟨_, v, t, _⟩, ?_, rfl, hv, ht, hswitches⟩
  rw [Config.parse, hlays.parse hdoc, Option.bind_some, read, hlays.readParallelism, hreadv, hreadt,
    hlays.readSwitches]
  rfl

/-- One token. -/
def sampleAssignment : Assignment where
  naming k := if k = "model" then some "\tdto" else none

/-- Its table, with an entry that means nothing. -/
def sampleTables : List (Table × Body) := [(.naming, [(["colour"], .boolean true), (["model"], .string "\tdto")])]

/-- Its text, with comments, an empty line and an escape. -/
def sampleText : String := "#1\n[naming]\ncolour=true\n\nmodel=\"\\tdto\"#2"

theorem lays_sampleTables : sampleAssignment.Lays sampleTables where
  nodup := by decide
  complete := by
    rintro t ⟨k, -, hk⟩
    cases t with
    | naming => decide
    | analyzer | thresholds | rule key => exact absurd rfl hk
  rules key := by simp [sampleTables, sampleAssignment]
  compatible := by
    simp only [sampleTables, List.forall_mem_singleton]
    exact ⟨by simp, by simp [Toml.apart_cons_iff]⟩
  given := by
    simp only [sampleTables, List.forall_mem_singleton]
    intro k hk v
    by_cases h : k = "model"
    · simp [Assignment.value?, sampleAssignment, h, eq_comm]
    · have hcolour : k ≠ "colour" := by
        rintro rfl
        exact absurd hk (by decide)
      simp [Assignment.value?, sampleAssignment, h, hcolour]
  unknown := by
    simp only [sampleTables, List.forall_mem_singleton]
    simp

/-- Most characters stand for themselves. -/
theorem spellsBasic_self {s : List Char} (h : s.all (fun c => Toml.isPlain c && c != '"' && c != '\\') = true) :
    Toml.Quoted.SpellsBasic s s := by
  induction s with
  | nil => exact .nil
  | cons c s ih =>
      simp only [List.all_cons, Bool.and_eq_true, bne_iff_ne] at h
      obtain ⟨⟨⟨hplain, hquote⟩, hescape⟩, hs⟩ := h
      exact .cons (.plain hplain hquote hescape) (ih hs)

theorem spellsLines_sampleText : Toml.SpellsLines (Assignment.statements sampleTables) sampleText.toList := by
  have hnil : ∀ c ∈ [], Toml.isSpace c = true := nofun
  have hfeed : Toml.IsBreak ['\n'] := .inl rfl
  have hnone : Toml.Remark [] := .intro hnil .absent
  have hfirst : Toml.Remark ['#', '1'] := .intro hnil (.text (List.forall_mem_singleton.mpr rfl))
  have hlast : Toml.Remark ['#', '2'] := .intro hnil (.text (List.forall_mem_singleton.mpr rfl))
  have hnaming : Toml.SpellsStatement (.header ["naming"]) "[naming]".toList :=
    .header (.one hnil (.bare (w := "naming".toList) (by decide) (List.all_eq_true.mp rfl)) hnil) (by decide)
  have hcolour : Toml.SpellsStatement (.entry ["colour"] (.boolean true)) "colour=true".toList :=
    .entry (.one hnil (.bare (w := "colour".toList) (by decide) (List.all_eq_true.mp rfl)) hnil) (by decide) hnil (.plain .yes)
  have hmodel : Toml.SpellsStatement (.entry ["model"] (.string "\tdto")) "model=\"\\tdto\"".toList :=
    .entry (.one hnil (.bare (w := "model".toList) (by decide) (List.all_eq_true.mp rfl)) hnil) (by decide) hnil
      (.string (.basic (.cons (.short (c := '\t') rfl) (spellsBasic_self (s := "dto".toList) rfl))))
  exact .skip hfirst hfeed <| .statement hnil hnaming hnone hfeed <| .statement hnil hcolour hnone hfeed <|
    .skip hnone hfeed <| .lastStatement hnil hmodel hlast

/-- The text is read with its token, and the defaults for everything else. -/
theorem config_text_parses_sample :
    ∃ c, Config.parse sampleText = some c ∧ c.parallelism = none ∧
      c.naming.entries = ({ model := "\tdto" } : Vocabulary).entries ∧
      c.thresholds.entries = ({} : Thresholds).entries ∧ c.switches = [] := by
  obtain ⟨c, hparse, hparallelism, hnaming, hthresholds, hswitches⟩ :=
    (config_text_parses sampleAssignment).2 sampleText ⟨sampleTables, lays_sampleTables, spellsLines_sampleText⟩
  exact ⟨c, hparse, hparallelism, hnaming, hthresholds, hswitches.eq_nil⟩

end ConfigFile

end LayerLint
