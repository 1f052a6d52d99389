import LayerLint.Json.Value
import LayerLint.Proofs.Lexing

/-!
# `Proofs.Grammar` — which texts spell a value

The reader is a machine that takes one token at a time. What it has read of a text is fixed by its
state: the containers that are open and what they hold. A text is read as a value exactly if it spaces
out the tokens of the value, so blanks are the only freedom beside the written forms of single tokens.

## Contents
- **Reading back.** `run_tokens`: the tokens of a value take the machine from expecting the value to
  having it.
- **States.** `Opened`, `Reads`: the tokens read so far, and `Reads.step`, what one token adds to them.
- **Texts.** `Spells`, and `parse_eq_some_iff`.
-/

namespace LayerLint.Json

open Value

/-! ## Reading back -/

namespace State

theorem run_cons (s : State) (t : Token) (ts : List Token) :
    s.run (t :: ts) = (s.step t).bind (·.run ts) := rfl

theorem run_append (s : State) (ts us : List Token) : s.run (ts ++ us) = (s.run ts).bind (·.run us) :=
  List.foldlM_append

end State

/-- The first token of a value does not close an array, so where an array may end it starts an item. -/
theorem run_firstItem_tokens (v : Value) (outer : List Frame) :
    (State.firstItem outer).run v.tokens = (State.value (.array [] :: outer)).run v.tokens := by
  cases v <;> rw [tokens] <;> rfl

mutual

/-- **The tokens of a value** are read as the value. -/
theorem run_tokens : ∀ (v : Value) (outer : List Frame),
    (State.value outer).run v.tokens = some (State.deliver v outer)
  | .null, outer => by rw [tokens]; rfl
  | .bool b, outer => by rw [tokens]; rfl
  | .number n, outer => by rw [tokens]; rfl
  | .string raw, outer => by rw [tokens]; rfl
  | .array items, outer => by
      rw [tokens, State.run_cons]
      exact run_itemTokens items outer
  | .object members, outer => by
      rw [tokens, State.run_cons]
      exact run_memberTokens members outer

theorem run_itemTokens : ∀ (items : List Value) (outer : List Frame),
    (State.firstItem outer).run (itemTokens items) = some (State.deliver (.array items) outer)
  | [], outer => by rw [itemTokens]; rfl
  | v :: vs, outer => by
      rw [itemTokens, State.run_append, run_firstItem_tokens, run_tokens v]
      exact run_moreItemTokens vs [v] outer

theorem run_moreItemTokens : ∀ (items done : List Value) (outer : List Frame),
    (State.afterItem outer done).run (moreItemTokens items) =
      some (State.deliver (.array (done.reverse ++ items)) outer)
  | [], done, outer => by
      rw [moreItemTokens, List.append_nil]
      rfl
  | v :: vs, done, outer => by
      rw [moreItemTokens, List.cons_append, State.run_cons]
      show (State.value (.array done :: outer)).run (v.tokens ++ moreItemTokens vs) = _
      rw [State.run_append, run_tokens v]
      show (State.afterItem outer (v :: done)).run (moreItemTokens vs) = _
      rw [run_moreItemTokens vs, List.reverse_cons, List.append_assoc]
      rfl

theorem run_memberTokens : ∀ (members : List (List Char × Value)) (outer : List Frame),
    (State.firstKey outer).run (memberTokens members) = some (State.deliver (.object members) outer)
  | [], outer => by rw [memberTokens]; rfl
  | (k, v) :: ms, outer => by
      rw [memberTokens]
      show (State.value (.object [] k :: outer)).run (v.tokens ++ moreMemberTokens ms) = _
      rw [State.run_append, run_tokens v]
      exact run_moreMemberTokens ms [(k, v)] outer

theorem run_moreMemberTokens : ∀ (members done : List (List Char × Value)) (outer : List Frame),
    (State.afterMember outer done).run (moreMemberTokens members) =
      some (State.deliver (.object (done.reverse ++ members)) outer)
  | [], done, outer => by
      rw [moreMemberTokens, List.append_nil]
      rfl
  | (k, v) :: ms, done, outer => by
      rw [moreMemberTokens]
      show (State.value (.object done k :: outer)).run (v.tokens ++ moreMemberTokens ms) = _
      rw [State.run_append, run_tokens v]
      show (State.afterMember outer ((k, v) :: done)).run (moreMemberTokens ms) = _
      rw [run_moreMemberTokens ms, List.reverse_cons, List.append_assoc]
      rfl

end

theorem ofTokens_tokens (v : Value) : ofTokens v.tokens = some v := by
  rw [ofTokens, run_tokens]
  rfl

/-! ## States -/

/-- The tokens read before a value inside some open containers. -/
inductive Opened : List Frame → List Token → Prop where
  | outermost : Opened [] []
  | firstItem {outer : List Frame} {ts : List Token} : Opened outer ts →
      Opened (.array [] :: outer) (ts ++ [.openBracket])
  | nextItem {outer : List Frame} {items : List Value} {ts : List Token} (v : Value) :
      Opened (.array items :: outer) ts → Opened (.array (v :: items) :: outer) (ts ++ v.tokens ++ [.comma])
  | firstMember {outer : List Frame} {ts : List Token} (k : List Char) : Opened outer ts →
      Opened (.object [] k :: outer) (ts ++ [.openBrace, .quoted k, .colon])
  | nextMember {outer : List Frame} {members : List (List Char × Value)} {k : List Char} {ts : List Token}
      (v : Value) (next : List Char) : Opened (.object members k :: outer) ts →
      Opened (.object ((k, v) :: members) next :: outer) (ts ++ v.tokens ++ [.comma, .quoted next, .colon])

/-- **The tokens that lead to a state.** -/
inductive Reads : State → List Token → Prop where
  | value {outer : List Frame} {ts : List Token} : Opened outer ts → Reads (.value outer) ts
  | firstItem {outer : List Frame} {ts : List Token} : Opened outer ts →
      Reads (.firstItem outer) (ts ++ [.openBracket])
  | afterItem {outer : List Frame} {items : List Value} {ts : List Token} (v : Value) :
      Opened (.array items :: outer) ts → Reads (.afterItem outer (v :: items)) (ts ++ v.tokens)
  | firstKey {outer : List Frame} {ts : List Token} : Opened outer ts →
      Reads (.firstKey outer) (ts ++ [.openBrace])
  | key {outer : List Frame} {members : List (List Char × Value)} {k : List Char} {ts : List Token}
      (v : Value) : Opened (.object members k :: outer) ts →
      Reads (.key outer ((k, v) :: members)) (ts ++ v.tokens ++ [.comma])
  | firstColon {outer : List Frame} {ts : List Token} (k : List Char) : Opened outer ts →
      Reads (.colon outer [] k) (ts ++ [.openBrace, .quoted k])
  | nextColon {outer : List Frame} {members : List (List Char × Value)} {k : List Char} {ts : List Token}
      (v : Value) (next : List Char) : Opened (.object members k :: outer) ts →
      Reads (.colon outer ((k, v) :: members) next) (ts ++ v.tokens ++ [.comma, .quoted next])
  | afterMember {outer : List Frame} {members : List (List Char × Value)} {k : List Char} {ts : List Token}
      (v : Value) : Opened (.object members k :: outer) ts →
      Reads (.afterMember outer ((k, v) :: members)) (ts ++ v.tokens)
  | complete (v : Value) : Reads (.complete v) v.tokens

/-- A value is handed on after its tokens. -/
theorem Opened.deliver {outer : List Frame} {ts : List Token} (h : Opened outer ts) (v : Value) :
    Reads (State.deliver v outer) (ts ++ v.tokens) := by
  cases h with
  | outermost => exact .complete v
  | firstItem h => exact .afterItem v (.firstItem h)
  | nextItem w h => exact .afterItem v (.nextItem w h)
  | firstMember k h => exact .afterMember v (.firstMember k h)
  | nextMember w next h => exact .afterMember v (.nextMember w next h)

/-- The first token of a value. -/
theorem Opened.start {outer : List Frame} {ts : List Token} (h : Opened outer ts) {t : Token} {s : State}
    (hs : State.start outer t = some s) : Reads s (ts ++ [t]) := by
  cases t with
  | null =>
      obtain rfl := Option.some.inj hs
      simpa [tokens] using h.deliver .null
  | bool b =>
      obtain rfl := Option.some.inj hs
      simpa [tokens] using h.deliver (.bool b)
  | number n =>
      obtain rfl := Option.some.inj hs
      simpa [tokens] using h.deliver (.number n)
  | quoted raw =>
      obtain rfl := Option.some.inj hs
      simpa [tokens] using h.deliver (.string raw)
  | openBracket =>
      obtain rfl := Option.some.inj hs
      exact .firstItem h
  | openBrace =>
      obtain rfl := Option.some.inj hs
      exact .firstKey h
  | closeBrace | closeBracket | colon | comma => cases hs

/-- An array that is open holds the items listed in its frame: closing it after one more item, or going
on with others, gives the tokens of the whole array. -/
theorem Opened.array {outer : List Frame} {items : List Value} {ts : List Token}
    (h : Opened (.array items :: outer) ts) :
    ∃ before, Opened outer before ∧ ∀ v more, ts ++ (v.tokens ++ moreItemTokens more) =
      before ++ (Value.array (items.reverse ++ v :: more)).tokens := by
  induction items generalizing ts with
  | nil =>
      cases h with
      | @firstItem _ before hbefore =>
          refine ⟨before, hbefore, fun v more => ?_⟩
          rw [List.reverse_nil, List.nil_append, tokens, itemTokens, List.append_assoc]
          rfl
  | cons w items ih =>
      cases h with
      | nextItem _ h =>
          obtain ⟨before, hbefore, heq⟩ := ih h
          refine ⟨before, hbefore, fun v more => ?_⟩
          have hw := heq w (v :: more)
          rw [moreItemTokens] at hw
          simpa using hw

/-- An object that is open holds the members listed in its frame. -/
theorem Opened.object {outer : List Frame} {members : List (List Char × Value)} {k : List Char}
    {ts : List Token} (h : Opened (.object members k :: outer) ts) :
    ∃ before, Opened outer before ∧ ∀ v more, ts ++ (v.tokens ++ moreMemberTokens more) =
      before ++ (Value.object (members.reverse ++ (k, v) :: more)).tokens := by
  induction members generalizing k ts with
  | nil =>
      cases h with
      | @firstMember _ before _ hbefore =>
          refine ⟨before, hbefore, fun v more => ?_⟩
          rw [List.reverse_nil, List.nil_append, tokens, memberTokens, List.append_assoc]
          rfl
  | cons m members ih =>
      cases h with
      | nextMember w _ h =>
          obtain ⟨before, hbefore, heq⟩ := ih h
          refine ⟨before, hbefore, fun v more => ?_⟩
          have hw := heq w ((k, v) :: more)
          rw [moreMemberTokens] at hw
          simpa using hw

/-- **One token** is added to what was read. -/
theorem Reads.step {s s' : State} {ts : List Token} (h : Reads s ts) {t : Token}
    (hs : s.step t = some s') : Reads s' (ts ++ [t]) := by
  cases h with
  | value h => exact h.start hs
  | @firstItem outer ts h =>
      by_cases ht : t = .closeBracket
      · subst ht
        obtain rfl := Option.some.inj hs
        have hv := h.deliver (.array [])
        rw [tokens, itemTokens] at hv
        simpa using hv
      · have hstart : State.start (.array [] :: outer) t = some s' := by
          cases t <;> first | exact hs | exact absurd rfl ht
        exact (Opened.firstItem h).start hstart
  | @afterItem outer items ts v h =>
      cases t with
      | closeBracket =>
          obtain rfl := Option.some.inj hs
          -- the items gathered in the frame, and this one, become one value before what was open
          obtain ⟨before, hbefore, heq⟩ := h.array
          have hv := hbefore.deliver (.array (v :: items).reverse)
          rw [List.reverse_cons, ← heq v [], moreItemTokens] at hv
          rw [List.reverse_cons, List.append_assoc]
          exact hv
      | comma =>
          obtain rfl := Option.some.inj hs
          exact .value (.nextItem v h)
      | openBrace | closeBrace | openBracket | colon | null | bool | number | quoted => cases hs
  | firstKey h =>
      cases t with
      | closeBrace =>
          obtain rfl := Option.some.inj hs
          have hv := h.deliver (.object [])
          rw [tokens, memberTokens] at hv
          simpa using hv
      | quoted k =>
          obtain rfl := Option.some.inj hs
          rw [List.append_assoc]
          exact .firstColon k h
      | openBrace | openBracket | closeBracket | colon | comma | null | bool | number => cases hs
  | key v h =>
      cases t with
      | quoted next =>
          obtain rfl := Option.some.inj hs
          rw [List.append_assoc]
          exact .nextColon v next h
      | openBrace | closeBrace | openBracket | closeBracket | colon | comma | null | bool | number => cases hs
  | firstColon k h =>
      cases t with
      | colon =>
          obtain rfl := Option.some.inj hs
          rw [List.append_assoc]
          exact .value (.firstMember k h)
      | openBrace | closeBrace | openBracket | closeBracket | comma | null | bool | number | quoted => cases hs
  | nextColon v next h =>
      cases t with
      | colon =>
          obtain rfl := Option.some.inj hs
          rw [List.append_assoc]
          exact .value (.nextMember v next h)
      | openBrace | closeBrace | openBracket | closeBracket | comma | null | bool | number | quoted => cases hs
  | @afterMember outer members k ts v h =>
      cases t with
      | closeBrace =>
          obtain rfl := Option.some.inj hs
          obtain ⟨before, hbefore, heq⟩ := h.object
          have hv := hbefore.deliver (.object ((k, v) :: members).reverse)
          rw [List.reverse_cons, ← heq v [], moreMemberTokens] at hv
          rw [List.reverse_cons, List.append_assoc]
          exact hv
      | comma =>
          obtain rfl := Option.some.inj hs
          exact .key v h
      | openBrace | openBracket | closeBracket | colon | null | bool | number | quoted => cases hs
  | complete v => cases hs

/-- **A run** adds all its tokens to what was read. -/
theorem Reads.run {s s' : State} {ts us : List Token} (h : Reads s ts) (hs : s.run us = some s') :
    Reads s' (ts ++ us) := by
  induction us generalizing s ts with
  | nil =>
      obtain rfl := Option.some.inj hs
      rwa [List.append_nil]
  | cons t us ih =>
      rw [State.run_cons] at hs
      obtain ⟨s₁, h₁, hs⟩ := Option.bind_eq_some_iff.mp hs
      have hread := ih (h.step h₁) hs
      rwa [List.append_assoc] at hread

/-- A list of tokens spells out a value exactly if it is the list of the value's tokens. -/
theorem ofTokens_eq_some_iff {ts : List Token} {v : Value} : ofTokens ts = some v ↔ ts = v.tokens := by
  constructor
  · intro h
    unfold ofTokens at h
    split at h
    · next w hw =>
        obtain rfl := Option.some.inj h
        have hread := (Reads.value Opened.outermost).run hw
        rw [List.nil_append] at hread
        cases hread with
        | complete => rfl
    · cases h
  · rintro rfl
    exact ofTokens_tokens v

/-! ## Texts -/

/-- The tokens do not start with a number. -/
def NoNumberFirst (ts : List Token) : Prop := ∀ t ∈ ts.head?, t.isNumber = false

theorem apart_cons {t : Token} {ts : List Token} (ht : t.isNumber = false) (h : Apart ts) :
    Apart (t :: ts) :=
  List.isChain_cons.mpr ⟨fun _ _ => by rw [ht]; rfl, h⟩

theorem noNumberFirst_cons {t : Token} {ts : List Token} (ht : t.isNumber = false) :
    NoNumberFirst (t :: ts) :=
  fun _ hb => Option.some.inj hb ▸ ht

mutual

/-- In the tokens of a value a number is followed by punctuation. -/
theorem apart_tokens : ∀ (v : Value) {rest : List Token}, Apart rest → NoNumberFirst rest →
    Apart (v.tokens ++ rest)
  | .null, rest, h, _ => by rw [tokens]; exact apart_cons rfl h
  | .bool _, rest, h, _ => by rw [tokens]; exact apart_cons rfl h
  | .number _, rest, h, hfirst => by
      rw [tokens]
      exact List.isChain_cons.mpr ⟨fun b hb => by rw [hfirst b hb, Bool.and_false], h⟩
  | .string _, rest, h, _ => by rw [tokens]; exact apart_cons rfl h
  | .array items, rest, h, _ => by
      rw [tokens]
      exact apart_cons rfl (apart_itemTokens items h)
  | .object members, rest, h, _ => by
      rw [tokens]
      exact apart_cons rfl (apart_memberTokens members h)

theorem apart_itemTokens : ∀ (items : List Value) {rest : List Token}, Apart rest →
    Apart (itemTokens items ++ rest)
  | [], rest, h => by rw [itemTokens]; exact apart_cons rfl h
  | v :: vs, rest, h => by
      rw [itemTokens, List.append_assoc]
      obtain ⟨hmore, hfirst⟩ := apart_moreItemTokens vs h
      exact apart_tokens v hmore hfirst

theorem apart_moreItemTokens : ∀ (items : List Value) {rest : List Token}, Apart rest →
    Apart (moreItemTokens items ++ rest) ∧ NoNumberFirst (moreItemTokens items ++ rest)
  | [], rest, h => by
      rw [moreItemTokens]
      exact ⟨apart_cons rfl h, noNumberFirst_cons rfl⟩
  | v :: vs, rest, h => by
      rw [moreItemTokens, List.append_assoc]
      obtain ⟨hmore, hfirst⟩ := apart_moreItemTokens vs h
      exact ⟨apart_cons rfl (apart_tokens v hmore hfirst), noNumberFirst_cons rfl⟩

theorem apart_memberTokens : ∀ (members : List (List Char × Value)) {rest : List Token}, Apart rest →
    Apart (memberTokens members ++ rest)
  | [], rest, h => by rw [memberTokens]; exact apart_cons rfl h
  | (_, v) :: ms, rest, h => by
      rw [memberTokens, List.append_assoc]
      obtain ⟨hmore, hfirst⟩ := apart_moreMemberTokens ms h
      exact apart_cons rfl (apart_cons rfl (apart_tokens v hmore hfirst))

theorem apart_moreMemberTokens : ∀ (members : List (List Char × Value)) {rest : List Token}, Apart rest →
    Apart (moreMemberTokens members ++ rest) ∧ NoNumberFirst (moreMemberTokens members ++ rest)
  | [], rest, h => by
      rw [moreMemberTokens]
      exact ⟨apart_cons rfl h, noNumberFirst_cons rfl⟩
  | (_, v) :: ms, rest, h => by
      rw [moreMemberTokens, List.append_assoc]
      obtain ⟨hmore, hfirst⟩ := apart_moreMemberTokens ms h
      exact ⟨apart_cons rfl (apart_cons rfl (apart_cons rfl (apart_tokens v hmore hfirst))),
        noNumberFirst_cons rfl⟩

end

/-- **The text spells the value**: it consists of the tokens of the value, in written forms, with blanks
around them. -/
def Spells (v : Value) (s : String) : Prop := Spaced v.tokens s.toList

/-- A text is read as a value exactly if it spells the value. -/
theorem parse_eq_some_iff {s : String} {v : Value} : parse s = some v ↔ Spells v s := by
  unfold parse parseChars Spells
  rw [Option.bind_eq_some_iff]
  constructor
  · rintro ⟨ts, hts, hv⟩
    obtain rfl := ofTokens_eq_some_iff.mp hv
    exact Token.all_sound hts
  · intro h
    have hapart : Apart v.tokens := by
      have hv : Apart (v.tokens ++ []) := apart_tokens v .nil nofun
      rwa [List.append_nil] at hv
    exact ⟨v.tokens, Token.all_complete h hapart, ofTokens_tokens v⟩

end LayerLint.Json
