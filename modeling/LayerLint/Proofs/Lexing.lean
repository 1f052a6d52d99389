import LayerLint.Json.Token
import Mathlib.Data.List.Chain
import Mathlib.Data.List.TakeWhile

/-!
# `Proofs.Lexing` — which texts the tokens of a JSON text stand for

The reader cuts a text into tokens by looking at the characters in front of it. Here the written forms
of a token are given on their own, and a text **spaces out** a list of tokens if it consists of written
forms of them, in order, with blanks before, between and after. Cutting finds exactly such a list.

## Contents
- **Numbers.** `Number.Spells`: sign, whole part, fraction, exponent.
- **Quoted texts.** `Quoted.WellFormed`: escapes are complete, control characters escaped.
- **Tokens.** `Token.Spells`, with `next?_sound` and `next?_complete`.
- **Texts.** `Spaced`, `all_sound` and `all_complete`. Two numbers in a row cannot be told apart without
  a blank, so the second asks for tokens among which no two such stand (`Apart`).
-/

namespace LayerLint.Json

/-! ## Numbers -/

namespace Number

/-- A nonempty run of decimal digits. -/
def IsDigits (ds : List Char) : Prop := ds ≠ [] ∧ ∀ c ∈ ds, c.isDigit = true

/-- The digits before the point: a zero alone, or a run that does not start with one. -/
def IsWholePart (ds : List Char) : Prop := ds = ['0'] ∨ IsDigits ds ∧ ds.head? ≠ some '0'

/-- A whole part starts with a digit. -/
theorem IsWholePart.head {ds : List Char} (h : IsWholePart ds) :
    ∃ c ds', ds = c :: ds' ∧ c.isDigit = true := by
  rcases h with rfl | ⟨⟨hne, hdigits⟩, -⟩
  · exact ⟨'0', [], rfl, by decide⟩
  · cases ds with
    | nil => exact absurd rfl hne
    | cons c ds => exact ⟨c, ds, rfl, hdigits c List.mem_cons_self⟩

/-- The written forms of a fraction. -/
inductive SpellsFraction : Option (List Char) → List Char → Prop where
  | absent : SpellsFraction none []
  | digits {ds : List Char} : IsDigits ds → SpellsFraction (some ds) ('.' :: ds)

/-- The written forms of the sign of an exponent. -/
inductive SpellsSign : Bool → List Char → Prop where
  | absent : SpellsSign false []
  | plus : SpellsSign false ['+']
  | minus : SpellsSign true ['-']

/-- The written forms of an exponent. -/
inductive SpellsExponent : Option (Bool × List Char) → List Char → Prop where
  | absent : SpellsExponent none []
  | digits {letter : Char} {neg : Bool} {sign ds : List Char} : letter = 'e' ∨ letter = 'E' →
      SpellsSign neg sign → IsDigits ds → SpellsExponent (some (neg, ds)) (letter :: (sign ++ ds))

/-- **The written forms of a number.** -/
def Spells (n : Number) (cs : List Char) : Prop :=
  ∃ fraction exponent, cs = (if n.negative then ['-'] else []) ++ (n.whole ++ (fraction ++ exponent)) ∧
    IsWholePart n.whole ∧ SpellsFraction n.fraction fraction ∧ SpellsExponent n.exponent exponent

/-- A text that cannot go on with a number that ends before it. -/
def Stops (rest : List Char) : Prop :=
  ∀ c ∈ rest.head?, c.isDigit = false ∧ c ≠ '.' ∧ c ≠ 'e' ∧ c ≠ 'E'

theorem scanDigits_sound {s ds rest : List Char} (h : scanDigits s = some (ds, rest)) :
    s = ds ++ rest ∧ IsDigits ds := by
  unfold scanDigits at h
  split at h
  · cases h
  · next hne =>
      obtain ⟨rfl, rfl⟩ := Prod.mk.inj (Option.some.inj h)
      refine ⟨List.takeWhile_append_dropWhile.symm, fun he => hne he, fun c hc => ?_⟩
      exact List.all_eq_true.mp List.all_takeWhile c hc

theorem scanDigits_complete {ds rest : List Char} (h : IsDigits ds)
    (hrest : ∀ c ∈ rest.head?, c.isDigit = false) : scanDigits (ds ++ rest) = some (ds, rest) := by
  have htake : rest.takeWhile Char.isDigit = [] := by
    cases rest with
    | nil => rfl
    | cons c rest => simp [hrest c rfl]
  have hdrop : rest.dropWhile Char.isDigit = rest := by
    cases rest with
    | nil => rfl
    | cons c rest => simp [hrest c rfl]
  unfold scanDigits
  rw [List.takeWhile_append_of_pos h.2, List.dropWhile_append_of_pos h.2, htake, hdrop, List.append_nil]
  cases ds with
  | nil => exact absurd rfl h.1
  | cons c ds => rfl

theorem scanWhole_sound {s ds rest : List Char} (h : scanWhole s = some (ds, rest)) :
    s = ds ++ rest ∧ IsWholePart ds := by
  unfold scanWhole at h
  split at h
  · obtain ⟨rfl, rfl⟩ := Prod.mk.inj (Option.some.inj h)
    exact ⟨rfl, Or.inl rfl⟩
  · next hzero =>
      obtain ⟨rfl, hds⟩ := scanDigits_sound h
      refine ⟨rfl, Or.inr ⟨hds, fun hhead => ?_⟩⟩
      obtain ⟨ds', rfl⟩ := List.head?_eq_some_iff.mp hhead
      exact hzero _ rfl

theorem scanWhole_complete {ds rest : List Char} (h : IsWholePart ds)
    (hrest : ∀ c ∈ rest.head?, c.isDigit = false) : scanWhole (ds ++ rest) = some (ds, rest) := by
  rcases h with rfl | ⟨hds, hzero⟩
  · rfl
  · unfold scanWhole
    split
    · next heq =>
        cases ds with
        | nil => exact absurd rfl hds.1
        | cons c ds =>
            obtain ⟨rfl, -⟩ := List.cons.inj heq
            exact absurd rfl hzero
    · exact scanDigits_complete hds hrest

theorem scanFraction_sound {s rest : List Char} {f : Option (List Char)}
    (h : scanFraction s = some (f, rest)) : ∃ cs, s = cs ++ rest ∧ SpellsFraction f cs := by
  unfold scanFraction at h
  split at h
  · obtain ⟨⟨ds, rest'⟩, hds, heq⟩ := Option.map_eq_some_iff.mp h
    obtain ⟨rfl, rfl⟩ := Prod.mk.inj heq
    obtain ⟨rfl, hdigits⟩ := scanDigits_sound hds
    exact ⟨_, rfl, .digits hdigits⟩
  · obtain ⟨rfl, rfl⟩ := Prod.mk.inj (Option.some.inj h)
    exact ⟨[], rfl, .absent⟩

theorem scanFraction_complete {f : Option (List Char)} {cs rest : List Char} (h : SpellsFraction f cs)
    (hrest : ∀ c ∈ rest.head?, c.isDigit = false ∧ c ≠ '.') :
    scanFraction (cs ++ rest) = some (f, rest) := by
  cases h with
  | absent =>
      unfold scanFraction
      split
      · next heq => exact absurd rfl (hrest '.' (by rw [← List.nil_append rest, heq]; rfl)).2
      · rfl
  | digits hds =>
      show (scanDigits (_ ++ rest)).map _ = _
      rw [scanDigits_complete hds fun c hc => (hrest c hc).1]
      rfl

theorem scanSigned_sound {s rest ds : List Char} {neg : Bool} (h : scanSigned s = some ((neg, ds), rest)) :
    ∃ sign, s = sign ++ ds ++ rest ∧ SpellsSign neg sign ∧ IsDigits ds := by
  have hdigits : ∀ {b s}, (scanDigits s).map (fun p => ((b, p.1), p.2)) = some ((neg, ds), rest) →
      s = ds ++ rest ∧ b = neg ∧ IsDigits ds := by
    intro b s h
    obtain ⟨⟨ds', rest'⟩, hds, heq⟩ := Option.map_eq_some_iff.mp h
    obtain ⟨⟨rfl, rfl⟩, rfl⟩ : (b = neg ∧ ds' = ds) ∧ rest' = rest := by simpa using heq
    obtain ⟨rfl, hrun⟩ := scanDigits_sound hds
    exact ⟨rfl, rfl, hrun⟩
  unfold scanSigned at h
  split at h
  · obtain ⟨rfl, rfl, hds⟩ := hdigits h
    exact ⟨['+'], rfl, .plus, hds⟩
  · obtain ⟨rfl, rfl, hds⟩ := hdigits h
    exact ⟨['-'], rfl, .minus, hds⟩
  · obtain ⟨rfl, rfl, hds⟩ := hdigits h
    exact ⟨[], rfl, .absent, hds⟩

theorem scanSigned_complete {neg : Bool} {sign ds rest : List Char} (hsign : SpellsSign neg sign)
    (hds : IsDigits ds) (hrest : ∀ c ∈ rest.head?, c.isDigit = false) :
    scanSigned (sign ++ ds ++ rest) = some ((neg, ds), rest) := by
  have hscan := scanDigits_complete hds hrest
  cases hsign with
  | plus => simp [scanSigned, hscan]
  | minus => simp [scanSigned, hscan]
  | absent =>
      cases ds with
      | nil => exact absurd rfl hds.1
      | cons c ds =>
          have hc := hds.2 c List.mem_cons_self
          unfold scanSigned
          split
          · next heq =>
              obtain ⟨rfl, -⟩ := List.cons.inj heq
              exact absurd hc (by decide)
          · next heq =>
              obtain ⟨rfl, -⟩ := List.cons.inj heq
              exact absurd hc (by decide)
          · rw [List.nil_append, hscan]
            rfl

theorem scanExponent_sound {s rest : List Char} {e : Option (Bool × List Char)}
    (h : scanExponent s = some (e, rest)) : ∃ cs, s = cs ++ rest ∧ SpellsExponent e cs := by
  unfold scanExponent at h
  split at h
  · obtain ⟨⟨⟨neg, ds⟩, rest'⟩, hds, heq⟩ := Option.map_eq_some_iff.mp h
    obtain ⟨rfl, rfl⟩ := Prod.mk.inj heq
    obtain ⟨sign, rfl, hsign, hdigits⟩ := scanSigned_sound hds
    exact ⟨_, rfl, .digits (.inl rfl) hsign hdigits⟩
  · obtain ⟨⟨⟨neg, ds⟩, rest'⟩, hds, heq⟩ := Option.map_eq_some_iff.mp h
    obtain ⟨rfl, rfl⟩ := Prod.mk.inj heq
    obtain ⟨sign, rfl, hsign, hdigits⟩ := scanSigned_sound hds
    exact ⟨_, rfl, .digits (.inr rfl) hsign hdigits⟩
  · obtain ⟨rfl, rfl⟩ := Prod.mk.inj (Option.some.inj h)
    exact ⟨[], rfl, .absent⟩

theorem scanExponent_complete {e : Option (Bool × List Char)} {cs rest : List Char}
    (h : SpellsExponent e cs) (hrest : Stops rest) : scanExponent (cs ++ rest) = some (e, rest) := by
  cases h with
  | absent =>
      rw [List.nil_append]
      unfold scanExponent
      split
      · exact absurd rfl (hrest 'e' rfl).2.2.1
      · exact absurd rfl (hrest 'E' rfl).2.2.2
      · rfl
  | digits hletter hsign hds =>
      have hscan := scanSigned_complete hsign hds fun c hc => (hrest c hc).1
      rcases hletter with rfl | rfl <;>
      · rw [List.cons_append, scanExponent, hscan]
        rfl

theorem scanUnsigned_sound {s rest : List Char} {neg : Bool} {n : Number}
    (h : scanUnsigned neg s = some (n, rest)) :
    ∃ f e, s = n.whole ++ (f ++ e) ++ rest ∧ n.negative = neg ∧ IsWholePart n.whole ∧
      SpellsFraction n.fraction f ∧ SpellsExponent n.exponent e := by
  obtain ⟨⟨whole, s₁⟩, h₁, h⟩ := Option.bind_eq_some_iff.mp h
  obtain ⟨⟨fraction, s₂⟩, h₂, h⟩ := Option.bind_eq_some_iff.mp h
  obtain ⟨⟨exponent, s₃⟩, h₃, h⟩ := Option.bind_eq_some_iff.mp h
  obtain ⟨rfl, rfl⟩ := Prod.mk.inj (Option.some.inj h)
  obtain ⟨rfl, hwhole⟩ := scanWhole_sound h₁
  obtain ⟨f, rfl, hfraction⟩ := scanFraction_sound h₂
  obtain ⟨e, rfl, hexponent⟩ := scanExponent_sound h₃
  exact ⟨f, e, by simp, rfl, hwhole, hfraction, hexponent⟩

/-- What a scan takes off the front is a written form of the number it gives. -/
theorem scan_sound {s rest : List Char} {n : Number} (h : scan s = some (n, rest)) :
    ∃ cs, s = cs ++ rest ∧ n.Spells cs := by
  unfold scan at h
  split at h
  · obtain ⟨f, e, rfl, hneg, hparts⟩ := scanUnsigned_sound h
    exact ⟨'-' :: (n.whole ++ (f ++ e)), rfl, f, e, by simp [hneg], hparts⟩
  · obtain ⟨f, e, rfl, hneg, hparts⟩ := scanUnsigned_sound h
    exact ⟨n.whole ++ (f ++ e), rfl, f, e, by simp [hneg], hparts⟩

theorem scanUnsigned_complete {whole f e rest : List Char} {fraction : Option (List Char)}
    {exponent : Option (Bool × List Char)} (neg : Bool) (hwhole : IsWholePart whole)
    (hfraction : SpellsFraction fraction f) (hexponent : SpellsExponent exponent e)
    (hrest : Stops rest) :
    scanUnsigned neg (whole ++ (f ++ e) ++ rest) = some (⟨neg, whole, fraction, exponent⟩, rest) := by
  -- No part can be taken for a longer one: the next part starts with a character of its own.
  have hafterFraction : ∀ c ∈ (e ++ rest).head?, c.isDigit = false ∧ c ≠ '.' := by
    intro c hc
    cases hexponent with
    | absent => exact ⟨(hrest c hc).1, (hrest c hc).2.1⟩
    | digits hletter _ _ =>
        obtain rfl := Option.some.inj hc
        rcases hletter with rfl | rfl <;> decide
  have hafterWhole : ∀ c ∈ (f ++ (e ++ rest)).head?, c.isDigit = false := by
    intro c hc
    cases hfraction with
    | absent => exact (hafterFraction c hc).1
    | digits _ =>
        obtain rfl := Option.some.inj hc
        decide
  have hwholeScan := scanWhole_complete hwhole hafterWhole
  have hfractionScan := scanFraction_complete hfraction hafterFraction
  have hexponentScan := scanExponent_complete hexponent hrest
  rw [List.append_assoc, List.append_assoc]
  simp [scanUnsigned, hwholeScan, hfractionScan, hexponentScan]

/-- A written form is scanned whole when what follows cannot go on with it. -/
theorem scan_complete {n : Number} {cs rest : List Char} (h : n.Spells cs) (hrest : Stops rest) :
    scan (cs ++ rest) = some (n, rest) := by
  obtain ⟨f, e, rfl, hwhole, hfraction, hexponent⟩ := h
  obtain ⟨negative, whole, fraction, exponent⟩ := n
  have hscan := scanUnsigned_complete negative hwhole hfraction hexponent hrest
  cases negative with
  | true => exact hscan
  | false =>
      show scan (whole ++ (f ++ e) ++ rest) = _
      unfold scan
      split
      · next heq =>
          obtain ⟨c, ds, rfl, hc⟩ := hwhole.head
          obtain ⟨rfl, -⟩ := List.cons.inj heq
          exact absurd hc (by decide)
      · exact hscan

/-- A number starts with a digit or a sign. -/
theorem Spells.head {n : Number} {cs : List Char} (h : n.Spells cs) :
    ∃ c cs', cs = c :: cs' ∧ (c = '-' ∨ c.isDigit = true) := by
  obtain ⟨f, e, rfl, hwhole, -, -⟩ := h
  obtain ⟨c, ds, hw, hc⟩ := hwhole.head
  rw [hw]
  cases n.negative with
  | true => exact ⟨'-', _, rfl, Or.inl rfl⟩
  | false => exact ⟨c, _, rfl, Or.inr hc⟩

end Number

/-! ## Quoted texts -/

namespace Quoted

/-- A hexadecimal digit, in either case. -/
def IsHexDigit (c : Char) : Prop :=
  '0' ≤ c ∧ c ≤ '9' ∨ 'a' ≤ c ∧ c ≤ 'f' ∨ 'A' ≤ c ∧ c ≤ 'F'

/-- **A text that may stand between quotes.** -/
inductive WellFormed : List Char → Prop where
  | nil : WellFormed []
  | plain {c : Char} {rest : List Char} : c ≠ '"' → c ≠ '\\' → 0x20 ≤ c.toNat → WellFormed rest →
      WellFormed (c :: rest)
  | short {c : Char} {rest : List Char} : c ∈ ['"', '\\', '/', 'b', 'f', 'n', 'r', 't'] → WellFormed rest →
      WellFormed ('\\' :: c :: rest)
  | unicode {a b c d : Char} {rest : List Char} : IsHexDigit a → IsHexDigit b → IsHexDigit c →
      IsHexDigit d → WellFormed rest → WellFormed ('\\' :: 'u' :: a :: b :: c :: d :: rest)

theorem isSome_hexValue? {c : Char} : (hexValue? c).isSome ↔ IsHexDigit c := by
  unfold hexValue? IsHexDigit
  split
  · simp [*]
  · split
    · simp [*]
    · split <;> simp [*]

theorem isSome_hexUnit? {a b c d : Char} :
    (hexUnit? a b c d).isSome ↔ IsHexDigit a ∧ IsHexDigit b ∧ IsHexDigit c ∧ IsHexDigit d := by
  rw [← isSome_hexValue?, ← isSome_hexValue?, ← isSome_hexValue?, ← isSome_hexValue?]
  unfold hexUnit?
  cases hexValue? a <;> cases hexValue? b <;> cases hexValue? c <;> cases hexValue? d <;> simp

theorem isSome_shortEscape? {c : Char} :
    (shortEscape? c).isSome ↔ c ∈ ['"', '\\', '/', 'b', 'f', 'n', 'r', 't'] := by
  unfold shortEscape?
  split <;> simp_all

/-- What a scan passes over is well formed, and a quote follows it. -/
theorem scan_sound {done s raw rest : List Char} (h : scan done s = some (raw, rest)) :
    ∃ body, raw = done.reverse ++ body ∧ s = body ++ '"' :: rest ∧ WellFormed body := by
  fun_induction scan done s with
  | case1 => cases h
  | case2 done rest =>
      obtain ⟨rfl, rfl⟩ := Prod.mk.inj (Option.some.inj h)
      exact ⟨[], (List.append_nil _).symm, rfl, .nil⟩
  | case3 done a b c d s hhex ih =>
      obtain ⟨body, rfl, rfl, hbody⟩ := ih h
      obtain ⟨ha, hb, hc, hd⟩ := isSome_hexUnit?.mp hhex
      exact ⟨_, by simp, rfl, .unicode ha hb hc hd hbody⟩
  | case4 => cases h
  | case5 done e s _ hshort ih =>
      obtain ⟨body, rfl, rfl, hbody⟩ := ih h
      exact ⟨_, by simp, rfl, .short (isSome_shortEscape?.mp hshort) hbody⟩
  | case6 => cases h
  | case7 => cases h
  | case8 done c s hquote hunicode hescape hctl ih =>
      obtain ⟨body, rfl, rfl, hbody⟩ := ih h
      -- a backslash would have been taken together with the character after it
      have hslash : c ≠ '\\' := by
        intro hc
        obtain ⟨e, rest', he⟩ := List.exists_cons_of_ne_nil (l := body ++ '"' :: rest) (by simp)
        exact hescape e rest' hc he
      exact ⟨_, by simp, rfl, .plain hquote hslash (by omega) hbody⟩

/-- A well-formed text before a quote is passed over whole. -/
theorem scan_complete {body : List Char} (h : WellFormed body) (done rest : List Char) :
    scan done (body ++ '"' :: rest) = some (done.reverse ++ body, rest) := by
  induction h generalizing done with
  | nil => simp [scan]
  | @plain c body hquote hslash hctl _ ih =>
      have hscan : scan done (c :: (body ++ '"' :: rest)) = scan (c :: done) (body ++ '"' :: rest) := by
        have hnot : ¬c.toNat < 0x20 := by omega
        rw [scan, if_neg hnot] <;> simp_all
      rw [List.cons_append, hscan, ih]
      simp
  | @short c body hc _ ih =>
      have hscan : scan done ('\\' :: c :: (body ++ '"' :: rest)) =
          scan (c :: '\\' :: done) (body ++ '"' :: rest) := by
        have hu : c ≠ 'u' := by rintro rfl; exact absurd hc (by decide)
        rw [← isSome_shortEscape?] at hc
        rw [scan] <;> simp_all
      rw [List.cons_append, List.cons_append, hscan, ih]
      simp
  | @unicode a b c d body ha hb hc hd _ ih =>
      have hhex := isSome_hexUnit?.mpr ⟨ha, hb, hc, hd⟩
      simp [scan, hhex, ih]

end Quoted

/-! ## Tokens -/

namespace Token

/-- **The written forms of a token.** -/
def Spells : Token → List Char → Prop
  | number n, cs => n.Spells cs
  | quoted raw, cs => Quoted.WellFormed raw ∧ cs = '"' :: (raw ++ ['"'])
  | t, cs => cs = t.text

/-- The token is a number. -/
def isNumber : Token → Bool
  | number _ => true
  | _ => false

/-- A token starts with a character that is no blank, and unless it is a number, with one that a number
cannot go on with. -/
theorem Spells.head {t : Token} {cs : List Char} (h : t.Spells cs) :
    ∃ c cs', cs = c :: cs' ∧ isSpace c = false ∧
      (t.isNumber = false → ∀ rest, Number.Stops (c :: rest)) := by
  cases t with
  | number n =>
      obtain ⟨c, cs', rfl, hc⟩ := Number.Spells.head h
      refine ⟨c, cs', rfl, ?_, nofun⟩
      rcases hc with rfl | hc
      · rfl
      · cases hspace : isSpace c with
        | false => rfl
        | true =>
            simp only [isSpace, Bool.or_eq_true, beq_iff_eq] at hspace
            rcases hspace with ((rfl | rfl) | rfl) | rfl <;> exact absurd hc (by decide)
  | quoted raw => exact ⟨'"', _, h.2, rfl, fun _ _ _ hc => Option.some.inj hc ▸ by decide⟩
  | bool b =>
      cases b with
      | false => exact ⟨'f', _, h, rfl, fun _ _ _ hc => Option.some.inj hc ▸ by decide⟩
      | true => exact ⟨'t', _, h, rfl, fun _ _ _ hc => Option.some.inj hc ▸ by decide⟩
  | openBrace | closeBrace | openBracket | closeBracket | colon | comma | null =>
      exact ⟨_, _, h, rfl, fun _ _ _ hc => Option.some.inj hc ▸ by decide⟩

/-- What is cut off the front of a text is a written form of the token it gives. -/
theorem next?_sound {s rest : List Char} {t : Token} (h : next? s = some (t, rest)) :
    ∃ cs, s = cs ++ rest ∧ t.Spells cs := by
  unfold next? at h
  split at h
  case h_7 s =>
    obtain ⟨⟨raw, rest'⟩, hscan, heq⟩ := Option.map_eq_some_iff.mp h
    obtain ⟨rfl, rfl⟩ := Prod.mk.inj heq
    obtain ⟨body, hraw, rfl, hbody⟩ := Quoted.scan_sound hscan
    obtain rfl : raw = body := hraw
    exact ⟨'"' :: (raw ++ ['"']), by simp, hbody, rfl⟩
  case h_11 =>
    obtain ⟨⟨n, rest'⟩, hscan, heq⟩ := Option.map_eq_some_iff.mp h
    obtain ⟨rfl, rfl⟩ := Prod.mk.inj heq
    exact Number.scan_sound hscan
  all_goals
    obtain ⟨rfl, rfl⟩ := Prod.mk.inj (Option.some.inj h)
    exact ⟨_, rfl, rfl⟩

/-- A written form is cut off whole; after a number there must be something it cannot go on with. -/
theorem next?_complete {t : Token} {cs rest : List Char} (h : t.Spells cs)
    (hrest : t.isNumber = true → Number.Stops rest) : next? (cs ++ rest) = some (t, rest) := by
  cases t with
  | number n =>
      obtain ⟨c, cs', hcs, hc⟩ := Number.Spells.head h
      have hscan := Number.scan_complete h (hrest rfl)
      subst hcs
      rw [List.cons_append] at hscan ⊢
      unfold next?
      split
      case h_11 => rw [hscan]; rfl
      all_goals
        next heq =>
          obtain ⟨rfl, -⟩ := List.cons.inj heq
          exact absurd hc (by decide)
  | quoted raw =>
      obtain ⟨hraw, rfl⟩ := h
      have hscan := Quoted.scan_complete hraw [] rest
      simp [next?, hscan]
  | bool b =>
      obtain rfl : cs = (bool b).text := h
      cases b <;> rfl
  | openBrace | closeBrace | openBracket | closeBracket | colon | comma | null =>
      obtain rfl := h
      rfl

end Token

/-! ## Texts -/

/-- A run of blanks. -/
def Blanks (ws : List Char) : Prop := ∀ c ∈ ws, Token.isSpace c = true

/-- **A text spaces out a list of tokens**: it consists of written forms of them, in order, with blanks
before, between and after. -/
inductive Spaced : List Token → List Char → Prop where
  | nil {ws : List Char} : Blanks ws → Spaced [] ws
  | cons {ws cs rest : List Char} {t : Token} {ts : List Token} : Blanks ws → t.Spells cs → Spaced ts rest →
      Spaced (t :: ts) (ws ++ (cs ++ rest))

/-- No two numbers stand next to each other. -/
def Apart (ts : List Token) : Prop := ts.IsChain fun a b => (a.isNumber && b.isNumber) = false

theorem stops_of_isSpace {c : Char} (h : Token.isSpace c = true) (rest : List Char) :
    Number.Stops (c :: rest) := by
  simp only [Token.isSpace, Bool.or_eq_true, beq_iff_eq] at h
  rintro d hd
  obtain rfl := Option.some.inj hd
  rcases h with ((rfl | rfl) | rfl) | rfl <;> decide

/-- A text in which no number comes first stops a number that ends before it. -/
theorem Spaced.stops {ts : List Token} {s : List Char} (h : Spaced ts s)
    (hfirst : ∀ t ∈ ts.head?, t.isNumber = false) : Number.Stops s := by
  cases h with
  | nil hws =>
      cases s with
      | nil => exact nofun
      | cons c s => exact stops_of_isSpace (hws c List.mem_cons_self) s
  | @cons ws cs rest t ts hws hcs _ =>
      cases ws with
      | cons c ws => exact stops_of_isSpace (hws c List.mem_cons_self) _
      | nil =>
          obtain ⟨c, cs', rfl, -, hstops⟩ := hcs.head
          exact hstops (hfirst t rfl) _

/-- A text is at least as long as the tokens in it are many. -/
theorem Spaced.length_le {ts : List Token} {s : List Char} (h : Spaced ts s) : ts.length ≤ s.length := by
  induction h with
  | nil => exact Nat.zero_le _
  | cons _ hcs _ ih =>
      obtain ⟨c, cs', rfl, -⟩ := hcs.head
      simp only [List.length_cons, List.length_append]
      omega

namespace Token

theorem blanks_takeWhile (s : List Char) : Blanks (s.takeWhile isSpace) :=
  fun c hc => List.all_eq_true.mp List.all_takeWhile c hc

/-- Skipping the blanks before a token leaves the token in front. -/
theorem dropWhile_isSpace_append {ws cs : List Char} {t : Token} (hws : Blanks ws) (hcs : t.Spells cs)
    (rest : List Char) : (ws ++ (cs ++ rest)).dropWhile isSpace = cs ++ rest := by
  obtain ⟨c, cs', rfl, hc, -⟩ := hcs.head
  rw [List.dropWhile_append_of_pos hws, List.cons_append, List.dropWhile_cons_of_neg (by simp [hc])]

/-- The tokens found in a text are spaced out in it. -/
theorem allFrom_sound {done ts : List Token} {fuel : Nat} {s : List Char}
    (h : allFrom done fuel s = some ts) : ∃ more, ts = done.reverse ++ more ∧ Spaced more s := by
  have hs : s = s.takeWhile isSpace ++ s.dropWhile isSpace := List.takeWhile_append_dropWhile.symm
  induction fuel generalizing done s with
  | zero =>
      unfold allFrom at h
      split at h
      · next hrest =>
          rw [hrest, List.append_nil] at hs
          obtain rfl := Option.some.inj h
          exact ⟨[], (List.append_nil _).symm, hs ▸ .nil (blanks_takeWhile s)⟩
      · cases h
  | succ fuel ih =>
      unfold allFrom at h
      split at h
      · next hrest =>
          rw [hrest, List.append_nil] at hs
          obtain rfl := Option.some.inj h
          exact ⟨[], (List.append_nil _).symm, hs ▸ .nil (blanks_takeWhile s)⟩
      · next c rest hrest =>
          simp only at h
          split at h
          · cases h
          · next t rest' hnext =>
              obtain ⟨cs, hcs, ht⟩ := next?_sound hnext
              obtain ⟨more, rfl, hmore⟩ := ih h List.takeWhile_append_dropWhile.symm
              rw [hs, hrest, hcs]
              exact ⟨t :: more, by simp, .cons (blanks_takeWhile s) ht hmore⟩

/-- Tokens that are spaced out in a text are found in it, given a step for each of them. -/
theorem allFrom_complete {ts : List Token} {s : List Char} (h : Spaced ts s) (hapart : Apart ts)
    {fuel : Nat} (hfuel : ts.length ≤ fuel) (done : List Token) :
    allFrom done fuel s = some (done.reverse ++ ts) := by
  induction h generalizing fuel done with
  | @nil ws hws =>
      have hdrop : ws.dropWhile isSpace = [] := List.dropWhile_eq_nil_iff.mpr hws
      unfold allFrom
      rw [hdrop, List.append_nil]
  | @cons ws cs rest t ts hws hcs hspaced ih =>
      obtain ⟨fuel, rfl⟩ : ∃ n, fuel = n + 1 := ⟨fuel - 1, by simp at hfuel; omega⟩
      obtain ⟨hfirst, hrest⟩ := List.isChain_cons.mp hapart
      have hstops : t.isNumber = true → Number.Stops rest := by
        intro ht
        refine hspaced.stops fun b hb => ?_
        simpa [ht] using hfirst b hb
      have hnext := next?_complete hcs hstops
      obtain ⟨c, cs', rfl, -⟩ := hcs.head
      unfold allFrom
      rw [dropWhile_isSpace_append hws hcs]
      simp only [List.cons_append] at hnext ⊢
      rw [hnext]
      simp only
      rw [ih hrest (by simp at hfuel; omega)]
      simp

/-- **Cutting is sound**: the tokens of a text are spaced out in it. -/
theorem all_sound {s : List Char} {ts : List Token} (h : all s = some ts) : Spaced ts s := by
  obtain ⟨more, rfl, hmore⟩ := allFrom_sound h
  exact hmore

/-- **Cutting is complete**: tokens that are spaced out in a text are those found in it. -/
theorem all_complete {s : List Char} {ts : List Token} (h : Spaced ts s) (hapart : Apart ts) :
    all s = some ts :=
  allFrom_complete h hapart h.length_le []

end Token

end LayerLint.Json
