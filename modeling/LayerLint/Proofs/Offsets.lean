import LayerLint.Proofs.Faults
import Mathlib.Data.List.DropRight

/-!
# `Proofs.Offsets` — lines, columns and the bytes they address

A place is found by walking over the lines of a text and adding up their lengths. There is a line for each
line feed and one for what follows the last of them, if anything does; so the end of a text that ends with a
line feed is on a line that the walk never comes to, and is found by the way out of the walk instead.

A column is added to the start of its line and compared with nothing. It can lead past the end of the text.

## Contents
- **Ways.** `Resolves`, the three ways in which a point becomes an offset; `offsetFor_eq_ok_iff`.
- **Bytes.** `Text.bytes`, and the line and column of a byte: `Text.lineOf`, `Text.columnOf`.
- **There and back.** `Text.exists_line_split`, and from it `span_addresses_bytes`: the place of the span
  between two offsets has these offsets.
- **Bounds.** `PastEnd`, and `location_inside_iff`: when a place is inside the text. `location_outruns_text`
  shows one that is not.
-/

namespace LayerLint

/-! ## Ways -/

/-- A line behind some number of whole lines is found at the offset behind them. -/
theorem Text.lineStart?_append {before after : List Char} (hafter : after ≠ [])
    (hlast : before = [] ∨ before.getLast? = some '\n') (k : Nat) :
    lineStart? k (lines (before ++ after)) (before.count '\n') = some (k + byteLength before) := by
  -- Along what stands before; as in `lineStart?_spec` the offset moves on with each character.
  induction before generalizing k with
  | nil => exact lineStart?_first hafter k
  | cons c before ih =>
      have hrest : before = [] ∨ before.getLast? = some '\n' := by
        cases before with
        | nil => exact .inl rfl
        | cons d before => exact .inr (by simpa using hlast)
      rw [List.cons_append, byteLength_cons, ← Nat.add_assoc]
      by_cases hc : c = '\n'
      · subst hc
        rw [List.count_cons_self, lineStart?_feed]
        exact ih hrest _
      · have hfeed : '\n' ∈ before := by
          rcases hrest with rfl | hrest
          · exact absurd (by simpa using hlast) hc
          · exact List.mem_of_getLast? hrest
        obtain ⟨i, hi⟩ := Nat.exists_eq_add_one.mpr (List.count_pos_iff.mpr hfeed)
        have ih := ih hrest (k + c.utf8Size)
        rw [hi] at ih
        rw [List.count_cons_of_ne hc, hi, lineStart?_cons hc]
        exact ih

/-- **The lines that are found are the lines of the text**, at the offsets at which they start. -/
theorem Text.lineStart?_eq_some_iff {s : List Char} {i start : Nat} :
    lineStart? 0 (lines s) i = some start ↔ LineStartsAt s (i + 1) start := by
  constructor
  · intro h
    obtain ⟨before, after, hs, hafter, hlast, hcount, hoffset⟩ := lineStart?_spec h
    exact ⟨before, after, hs, hafter, hlast, by rw [hcount], by rw [← hoffset, Nat.zero_add]⟩
  · rintro ⟨before, after, rfl, hafter, hlast, hcount, rfl⟩
    obtain rfl : before.count '\n' = i := Nat.add_right_cancel hcount
    rw [lineStart?_append hafter hlast, Nat.zero_add]

/-- A line starts at one offset only. -/
theorem LineStartsAt.unique {text : List Char} {line start start' : Nat} (h : LineStartsAt text line start)
    (h' : LineStartsAt text line start') : start = start' := by
  obtain ⟨i, rfl⟩ : ∃ i, line = i + 1 := by
    obtain ⟨before, -, -, -, -, hcount, -⟩ := h
    exact ⟨before.count '\n', hcount.symm⟩
  rw [← Text.lineStart?_eq_some_iff] at h h'
  exact Option.some.inj (h.symm.trans h')

/-- **The three ways in which a point becomes an offset.** Line 0 is the start of the text; a line of the text
is gone into by the column, whatever its length; a line that the text does not have is the end of the text. -/
inductive Resolves (text : List Char) (p : Point) : Nat → Prop where
  | start : p.line = 0 → Resolves text p 0
  | within {start : Nat} : LineStartsAt text p.line.toNat start →
      start + (p.column.toNat - 1) < wordBound → Resolves text p (start + (p.column.toNat - 1))
  | beyond : p.line ≠ 0 → (∀ start, ¬LineStartsAt text p.line.toNat start) →
      Resolves text p (Text.byteLength text)

/-- An offset is computed in exactly these ways. -/
theorem offsetFor_eq_ok_iff {text : List Char} {line column : UInt64} {o : Nat} :
    offsetFor text line column = .ok o ↔ Resolves text ⟨line, column⟩ o := by
  have hfound {i start : Nat} (hi : i + 1 = line.toNat) :
      Text.lineStart? 0 (Text.lines text) (line.toNat - 1) = some start ↔
        LineStartsAt text line.toNat start := by
    rw [← hi, Nat.add_sub_cancel, Text.lineStart?_eq_some_iff]
  constructor
  · intro h
    unfold offsetFor at h
    by_cases hline : line = 0
    · rw [if_pos hline] at h
      obtain rfl := Except.ok.inj h
      exact .start hline
    · rw [if_neg hline] at h
      have hpos : line.toNat ≠ 0 := fun hzero => hline (UInt64.toNat_inj.mp hzero)
      obtain ⟨i, hi⟩ := Nat.exists_eq_add_one_of_ne_zero hpos
      cases hstart : Text.lineStart? 0 (Text.lines text) (line.toNat - 1) with
      | none =>
          rw [hstart] at h
          obtain rfl := Except.ok.inj h
          refine .beyond hline fun start hline' => ?_
          rw [(hfound hi.symm).mpr hline'] at hstart
          cases hstart
      | some start =>
          rw [hstart] at h
          dsimp only at h
          split at h
          · next hbound =>
              obtain rfl := Except.ok.inj h
              exact .within ((hfound hi.symm).mp hstart) hbound
          · cases h
  · intro h
    unfold offsetFor
    cases h with
    | start hline => rw [if_pos hline]
    | within hstart hbound =>
        have hi : line.toNat = line.toNat - 1 + 1 := by
          obtain ⟨before, -, -, -, -, hcount, -⟩ := hstart
          dsimp only at hcount
          omega
        have hline : line ≠ 0 := by
          rintro rfl
          cases hi
        rw [if_neg hline, (hfound hi.symm).mpr hstart]
        exact if_pos hbound
    | beyond hline hnone =>
        have hpos : line.toNat ≠ 0 := fun hzero => hline (UInt64.toNat_inj.mp hzero)
        obtain ⟨i, hi⟩ := Nat.exists_eq_add_one_of_ne_zero hpos
        rw [if_neg hline]
        cases hstart : Text.lineStart? 0 (Text.lines text) (line.toNat - 1) with
        | none => rfl
        | some start => exact absurd ((hfound hi.symm).mp hstart) (hnone start)

/-! ## Bytes -/

namespace Text

/-- The UTF-8 bytes of a text. -/
def bytes (s : List Char) : List UInt8 := s.flatMap String.utf8EncodeChar

/-- The byte that ends a line. -/
def lineFeed : UInt8 := 0x0A

theorem bytes_append (a b : List Char) : bytes (a ++ b) = bytes a ++ bytes b := List.flatMap_append

theorem bytes_cons (c : Char) (s : List Char) : bytes (c :: s) = String.utf8EncodeChar c ++ bytes s :=
  List.flatMap_cons

@[simp] theorem length_bytes (s : List Char) : (bytes s).length = byteLength s := by
  induction s with
  | nil => rfl
  | cons c s ih => rw [bytes_cons, List.length_append, String.length_utf8EncodeChar, ih, byteLength_cons]

/-- No character but the line feed has the byte of the line feed in it. -/
theorem lineFeed_notMem {c : Char} (hc : c ≠ '\n') : lineFeed ∉ String.utf8EncodeChar c := by
  have hne : c.val.toNat ≠ 10 := fun h => hc (Char.ext (UInt32.toNat_inj.mp h))
  have hbyte {n : Nat} (hn : n % 256 ≠ 10) : lineFeed ≠ UInt8.ofNat n := fun h => by
    rw [← UInt8.toNat_inj, UInt8.toNat_ofNat'] at h
    exact hn h.symm
  unfold String.utf8EncodeChar
  dsimp only
  -- a longer form has all its bytes above the ASCII range
  split
  · exact List.not_mem_cons_of_ne_of_not_mem (hbyte (by omega)) List.not_mem_nil
  · split
    · simp only [List.mem_cons, List.not_mem_nil, or_false, not_or]
      exact ⟨hbyte (by omega), hbyte (by omega)⟩
    · split
      · simp only [List.mem_cons, List.not_mem_nil, or_false, not_or]
        exact ⟨hbyte (by omega), hbyte (by omega), hbyte (by omega)⟩
      · simp only [List.mem_cons, List.not_mem_nil, or_false, not_or]
        exact ⟨hbyte (by omega), hbyte (by omega), hbyte (by omega), hbyte (by omega)⟩

theorem count_bytes (s : List Char) : (bytes s).count lineFeed = s.count '\n' := by
  induction s with
  | nil => rfl
  | cons c s ih =>
      rw [bytes_cons, List.count_append, ih]
      by_cases hc : c = '\n'
      · subst hc
        have hfeed : (String.utf8EncodeChar '\n').count lineFeed = 1 := by decide
        rw [hfeed, List.count_cons_self, Nat.add_comm]
      · rw [List.count_eq_zero.mpr (lineFeed_notMem hc), List.count_cons_of_ne hc, Nat.zero_add]

/-! ## There and back -/

/-- The line of an offset: one more than the number of line feeds before it. -/
def lineOf (bs : List UInt8) (o : Nat) : Nat := (bs.take o).count lineFeed + 1

/-- Where the line of an offset starts: past the last line feed before it. -/
def lineStartOf (bs : List UInt8) (o : Nat) : Nat := ((bs.take o).rdropWhile (· ≠ lineFeed)).length

/-- The column of an offset: one more than its distance from the start of the line. -/
def columnOf (bs : List UInt8) (o : Nat) : Nat := o - lineStartOf bs o + 1

/-- What stands before an offset is some number of whole lines and a part of a line. The offset may stand
inside a character. -/
theorem exists_line_split {s : List Char} {o : Nat} (ho : o ≤ byteLength s) :
    ∃ before after part, s = before ++ after ∧ (before = [] ∨ before.getLast? = some '\n') ∧
      (bytes s).take o = bytes before ++ part ∧ lineFeed ∉ part := by
  induction s generalizing o with
  | nil =>
      obtain rfl : o = 0 := Nat.le_zero.mp ho
      exact ⟨[], [], [], rfl, .inl rfl, rfl, List.not_mem_nil⟩
  | cons c s ih =>
      rw [byteLength_cons] at ho
      rw [bytes_cons]
      have hsize := String.length_utf8EncodeChar c
      by_cases hinside : o < c.utf8Size
      · refine ⟨[], c :: s, (String.utf8EncodeChar c).take o, rfl, .inl rfl, ?_, ?_⟩
        · exact List.take_append_of_le_length (by omega)
        · by_cases hc : c = '\n'
          · subst hc
            obtain rfl : o = 0 := by
              have hone : ('\n' : Char).utf8Size = 1 := by decide
              omega
            exact List.not_mem_nil
          · exact fun hmem => lineFeed_notMem hc (List.mem_of_mem_take hmem)
      · obtain ⟨before, after, part, rfl, hlast, htake, hpart⟩ := ih (o := o - c.utf8Size) (by omega)
        have hfirst : (String.utf8EncodeChar c ++ bytes (before ++ after)).take o =
            String.utf8EncodeChar c ++ (bytes before ++ part) := by
          rw [List.take_append, List.take_of_length_le (by omega), hsize, htake]
        -- the first character goes to the part of a line if no line ends before the offset
        by_cases hnone : before = [] ∧ c ≠ '\n'
        · obtain ⟨rfl, hc⟩ := hnone
          refine ⟨[], c :: after, String.utf8EncodeChar c ++ part, rfl, .inl rfl, hfirst, ?_⟩
          rw [List.mem_append]
          exact fun h => h.elim (lineFeed_notMem hc) hpart
        · refine ⟨c :: before, after, part, rfl, .inr ?_, ?_, hpart⟩
          · rcases hlast with rfl | hlast
            · have hc : c = '\n' := by simpa using hnone
              rw [hc]
              rfl
            · rw [List.getLast?_cons, hlast]
              rfl
          · rw [hfirst, bytes_cons, List.append_assoc]

/-- Dropping back from a part of a line comes to the end of the last whole line. -/
theorem rdropWhile_bytes_append {before : List Char} (hlast : before = [] ∨ before.getLast? = some '\n')
    {part : List UInt8} (hpart : lineFeed ∉ part) :
    (bytes before ++ part).rdropWhile (· ≠ lineFeed) = bytes before := by
  have hall : ∀ b ∈ part.reverse, decide (b ≠ lineFeed) = true := by
    intro b hb
    rw [decide_eq_true_iff]
    rintro rfl
    exact hpart (List.mem_reverse.mp hb)
  rw [List.rdropWhile, List.reverse_append, List.dropWhile_append_of_pos hall]
  rcases hlast with rfl | hlast
  · rfl
  · obtain ⟨lines, rfl⟩ := List.getLast?_eq_some_iff.mp hlast
    have hend : bytes (lines ++ ['\n']) = bytes lines ++ [lineFeed] := by
      rw [bytes_append]
      rfl
    rw [hend, List.reverse_append, List.reverse_singleton, List.singleton_append,
      List.dropWhile_cons_of_neg (by simp), List.reverse_cons, List.reverse_reverse]

theorem lineOf_le (bs : List UInt8) (o : Nat) : lineOf bs o ≤ o + 1 := by
  have hcount := List.count_le_length (a := lineFeed) (l := bs.take o)
  have htake := List.length_take_le o bs
  unfold lineOf
  omega

theorem columnOf_le (bs : List UInt8) (o : Nat) : columnOf bs o ≤ o + 1 := by
  unfold columnOf
  omega

/-- The line and the column of an offset, as words. -/
def pointAt (bs : List UInt8) (o : Nat) : Point := ⟨.ofNat (lineOf bs o), .ofNat (columnOf bs o)⟩

/-- They are numbers that fit a word if the next offset does. -/
theorem toNat_pointAt (bs : List UInt8) {o : Nat} (hword : o + 1 < wordBound) :
    (pointAt bs o).line.toNat = lineOf bs o ∧ (pointAt bs o).column.toNat = columnOf bs o := by
  have hline := lineOf_le bs o
  have hcolumn := columnOf_le bs o
  constructor
  · exact UInt64.toNat_ofNat_of_lt' (Nat.lt_of_le_of_lt hline hword)
  · exact UInt64.toNat_ofNat_of_lt' (Nat.lt_of_le_of_lt hcolumn hword)

/-- The line behind the last line feed of a text that ends with it is not found. -/
theorem not_lineStartsAt_end {s : List Char} (hlast : s = [] ∨ s.getLast? = some '\n') (start : Nat) :
    ¬LineStartsAt s (s.count '\n' + 1) start := by
  rintro ⟨before, after, rfl, hafter, -, hcount, -⟩
  have hnone : after.count '\n' = 0 := by
    rw [List.count_append] at hcount
    omega
  rcases hlast with hnil | hlast
  · exact hafter (List.append_eq_nil_iff.mp hnil).2
  · have hfeed : after.getLast? = some '\n' := by
      rwa [List.getLast?_append_of_ne_nil _ hafter] at hlast
    exact List.count_eq_zero.mp hnone (List.mem_of_getLast? hfeed)

/-- **The line and the column of an offset lead back to it.** -/
theorem resolves_pointAt {s : List Char} {o : Nat} (ho : o ≤ byteLength s) (hword : o + 1 < wordBound) :
    Resolves s (pointAt (bytes s) o) o := by
  obtain ⟨before, after, part, hs, hlast, htake, hpart⟩ := exists_line_split ho
  obtain ⟨hlineWord, hcolumnWord⟩ := toNat_pointAt (bytes s) hword
  have hline : lineOf (bytes s) o = before.count '\n' + 1 := by
    rw [lineOf, htake, List.count_append, count_bytes, List.count_eq_zero.mpr hpart, Nat.add_zero]
  have hstart : lineStartOf (bytes s) o = byteLength before := by
    rw [lineStartOf, htake, rdropWhile_bytes_append hlast hpart, length_bytes]
  have hle : byteLength before ≤ o := by
    have hlength := congrArg List.length htake
    rw [List.length_take, List.length_append, length_bytes, length_bytes] at hlength
    omega
  by_cases hafter : after = []
  · subst hafter
    rw [List.append_nil] at hs
    subst hs
    obtain rfl : o = byteLength s := Nat.le_antisymm ho hle
    refine .beyond ?_ ?_
    · intro hzero
      rw [hzero, hline] at hlineWord
      exact Nat.succ_ne_zero _ hlineWord.symm
    · rw [hlineWord, hline]
      exact not_lineStartsAt_end hlast
  · have hback : byteLength before + ((pointAt (bytes s) o).column.toNat - 1) = o := by
      rw [hcolumnWord, columnOf, hstart]
      omega
    have hstarts : LineStartsAt s (pointAt (bytes s) o).line.toNat (byteLength before) :=
      ⟨before, after, hs, hafter, hlast, by rw [hlineWord, hline], rfl⟩
    have hbound : byteLength before + ((pointAt (bytes s) o).column.toNat - 1) < wordBound := by omega
    have hresolves := Resolves.within hstarts hbound
    rwa [hback] at hresolves

end Text

/-- The span from one point to another. -/
def Span.between (p q : Point) : Span := ⟨p.line, p.column, q.line, q.column⟩

/-- A place has the offset of the start of its span and reaches to that of the end. -/
theorem UnitContext.location_eq_ok_iff {c : UnitContext} {s : Span} {l : Location} :
    c.location s = .ok l ↔ ∃ start stop,
      Resolves c.unit.text.toList ⟨s.startLine, s.startColumn⟩ start ∧
      Resolves c.unit.text.toList ⟨s.endLine, s.endColumn⟩ stop ∧
      l = { file := c.unit.path, line := s.startLine.toNat, column := s.startColumn.toNat, offset := start,
            length := stop - start } := by
  simp only [← offsetFor_eq_ok_iff]
  unfold location
  cases offsetFor c.unit.text.toList s.startLine s.startColumn with
  | error e => exact ⟨nofun, nofun⟩
  | ok start =>
      cases offsetFor c.unit.text.toList s.endLine s.endColumn with
      | error e => exact ⟨nofun, nofun⟩
      | ok stop =>
          constructor
          · intro h
            exact ⟨start, stop, rfl, rfl, (Except.ok.inj h).symm⟩
          · rintro ⟨_, _, hstart, hstop, rfl⟩
            rw [← Except.ok.inj hstart, ← Except.ok.inj hstop]
            rfl

/-- **Lines and columns address bytes.** Let `a ≤ b` be offsets in a text. The line and the column of each lead
back to it, and the place of the span between them has the offset `a` and the length `b - a`: it is made of the
bytes from `a` to `b`. Lines and columns are counted here on the bytes alone: an offset may stand at a line end
of either form, inside a character, on an empty line, or at the end of a text with or without a last line feed.
The offsets are such that a word can count them, as are those of any text that is held in memory. -/
theorem span_addresses_bytes (c : UnitContext) {a b : Nat} (hab : a ≤ b)
    (hb : b ≤ Text.byteLength c.unit.text.toList) (hword : b + 1 < wordBound) :
    let bs := Text.bytes c.unit.text.toList
    (∀ o ∈ [a, b],
      (Text.pointAt bs o).line.toNat = Text.lineOf bs o ∧
      (Text.pointAt bs o).column.toNat = Text.columnOf bs o ∧
      offsetFor c.unit.text.toList (Text.pointAt bs o).line (Text.pointAt bs o).column = .ok o) ∧
    ∃ l, c.location (.between (Text.pointAt bs a) (Text.pointAt bs b)) = .ok l ∧
      l.file = c.unit.path ∧ l.line = Text.lineOf bs a ∧ l.column = Text.columnOf bs a ∧
      l.offset = a ∧ l.length = b - a ∧ (bs.drop l.offset).take l.length = (bs.take b).drop a := by
  intro bs
  have hresolves {o : Nat} (ho : o ≤ b) : Resolves c.unit.text.toList (Text.pointAt bs o) o :=
    Text.resolves_pointAt (Nat.le_trans ho hb) (by omega)
  have hwords {o : Nat} (ho : o ≤ b) : (Text.pointAt bs o).line.toNat = Text.lineOf bs o ∧
      (Text.pointAt bs o).column.toNat = Text.columnOf bs o := Text.toNat_pointAt bs (by omega)
  constructor
  · intro o ho
    have hle : o ≤ b := by
      rcases List.mem_cons.mp ho with rfl | ho
      · exact hab
      · exact Nat.le_of_eq (List.mem_singleton.mp ho)
    exact ⟨(hwords hle).1, (hwords hle).2, offsetFor_eq_ok_iff.mpr (hresolves hle)⟩
  · refine ⟨_, UnitContext.location_eq_ok_iff.mpr ⟨a, b, hresolves hab, hresolves (Nat.le_refl b), rfl⟩,
      rfl, (hwords hab).1, (hwords hab).2, rfl, rfl, ?_⟩
    exact (List.drop_take ..).symm

namespace Sample

/-- A unit with a text that has a character of two bytes, a line end of two bytes and an empty line. -/
def accented : UnitContext where
  unit := { path := "Pedidos/Pedido.cs", text := "é\r\n\nfin\n", root := .leaf .compilationUnit }
  model
  settings := {}

end Sample

/-- From inside the first character to the end of the text, which is on a line of its own. -/
theorem span_addresses_bytes_sample :
    1 ≤ 9 ∧ 9 ≤ Text.byteLength Sample.accented.unit.text.toList ∧ 9 + 1 < wordBound ∧
    ∃ l, Sample.accented.location ⟨1, 2, 4, 1⟩ = .ok l ∧ l.offset = 1 ∧ l.length = 8 := by
  have hbytes : 9 ≤ Text.byteLength Sample.accented.unit.text.toList := by decide
  have hpoints : Span.between (Text.pointAt (Text.bytes Sample.accented.unit.text.toList) 1)
      (Text.pointAt (Text.bytes Sample.accented.unit.text.toList) 9) = ⟨1, 2, 4, 1⟩ := by decide
  obtain ⟨-, l, hl, -, -, -, hoffset, hlength, -⟩ :=
    span_addresses_bytes Sample.accented (a := 1) (b := 9) (by decide) hbytes (by decide)
  rw [hpoints] at hl
  exact ⟨by decide, hbytes, by decide, l, hl, hoffset, hlength⟩

/-! ## Bounds -/

/-- **A point lies past the end** of the text: its line is a line of the text, and its column leads from the
start of that line beyond the last byte. -/
def PastEnd (text : List Char) (p : Point) : Prop :=
  ∃ start, LineStartsAt text p.line.toNat start ∧ Text.byteLength text < start + (p.column.toNat - 1)

/-- Only a column leads out of a text. -/
theorem Resolves.le_iff {text : List Char} {p : Point} {o : Nat} (h : Resolves text p o) :
    o ≤ Text.byteLength text ↔ ¬PastEnd text p := by
  cases h with
  | start hline =>
      refine ⟨fun _ => ?_, fun _ => Nat.zero_le _⟩
      rintro ⟨start, ⟨before, -, -, -, -, hcount, -⟩, -⟩
      rw [hline] at hcount
      exact Nat.succ_ne_zero _ hcount
  | within hstart _ =>
      constructor
      · rintro hle ⟨start', hstart', hlt⟩
        rw [hstart'.unique hstart] at hlt
        omega
      · intro hinside
        exact Nat.le_of_not_lt fun hlt => hinside ⟨_, hstart, hlt⟩
  | beyond _ hnone =>
      refine ⟨fun _ => ?_, fun _ => Nat.le_refl _⟩
      rintro ⟨start, hstart, -⟩
      exact hnone start hstart

/-- **When a place is inside the text.** The offset of a place is that of the start of its span, and the length
leads to that of the end, each found in one of the three ways. The place starts and ends inside the text exactly
if neither end of the span lies past the end of the text; a point on line 0, or on a line that the text does not
have, never does. -/
theorem location_inside_iff {c : UnitContext} {s : Span} {l : Location} (h : c.location s = .ok l) :
    (∃ stop, Resolves c.unit.text.toList ⟨s.startLine, s.startColumn⟩ l.offset ∧
      Resolves c.unit.text.toList ⟨s.endLine, s.endColumn⟩ stop ∧ l.length = stop - l.offset) ∧
    ((l.offset ≤ Text.byteLength c.unit.text.toList ∧
        l.offset + l.length ≤ Text.byteLength c.unit.text.toList) ↔
      ∀ p ∈ s.points, ¬PastEnd c.unit.text.toList p) := by
  obtain ⟨start, stop, hstart, hstop, rfl⟩ := UnitContext.location_eq_ok_iff.mp h
  refine ⟨⟨stop, hstart, hstop, rfl⟩, ?_⟩
  simp only [Span.points, List.forall_mem_cons, List.not_mem_nil, false_implies, implies_true, and_true]
  rw [← hstart.le_iff, ← hstop.le_iff]
  -- the length is counted from the start, so the place reaches to the later of the two offsets
  omega

/-- The second end point is on a line that the text does not have. -/
theorem location_inside_iff_sample :
    ∃ l, Sample.accented.location ⟨3, 1, 7, 40⟩ = .ok l ∧ l.offset = 5 ∧ l.length = 4 ∧
      ∀ p ∈ (⟨3, 1, 7, 40⟩ : Span).points, ¬PastEnd Sample.accented.unit.text.toList p := by
  have hl : Sample.accented.location ⟨3, 1, 7, 40⟩ =
      .ok { file := "Pedidos/Pedido.cs", line := 3, column := 1, offset := 5, length := 4 } := by
    decide +kernel
  exact ⟨_, hl, rfl, rfl, (location_inside_iff hl).2.mp (by decide)⟩

namespace Sample

/-- A unit of three bytes. -/
def threeBytes : UnitContext where
  unit := { path := "u.cs", text := "abc", root := .leaf .compilationUnit }
  model
  settings := {}

end Sample

/-- **A column is not held to its line.** The place of a point in column 100 of a text of three bytes has the
offset 99. -/
theorem location_outruns_text :
    ∃ l, Sample.threeBytes.location ⟨1, 100, 1, 100⟩ = .ok l ∧ l.offset = 99 ∧
      ¬(l.offset ≤ Text.byteLength Sample.threeBytes.unit.text.toList ∧
        l.offset + l.length ≤ Text.byteLength Sample.threeBytes.unit.text.toList) := by
  have hl : Sample.threeBytes.location ⟨1, 100, 1, 100⟩ =
      .ok { file := "u.cs", line := 1, column := 100, offset := 99 } := by
    decide +kernel
  exact ⟨_, hl, rfl, by decide⟩

end LayerLint
