/-!
# `Bounds` — word sizes, powers and sums

## Contents
- **Words.** `wordBound`, `signedBound`, `idBound`: the numbers of values of machine words;
  `SignedWord`, the integers that fit one.
- **Powers.** `twoTo`, `tenTo`.
- **Sums.** `total`, additive over concatenation.
-/

namespace LayerLint

/-! ## Words -/

/-- The number of values of a 64-bit word. -/
def wordBound : Nat := 0x10000000000000000

/-- The number of values of a signed 64-bit word that are not negative. -/
def signedBound : Nat := 0x8000000000000000

/-- The number of values of a 32-bit word. -/
def idBound : Nat := 0x100000000

/-- A signed 64-bit word. -/
abbrev SignedWord := { i : Int // -(signedBound : Int) ≤ i ∧ i < signedBound }

/-- The integer as a signed word, if it fits. -/
def SignedWord.ofInt? (i : Int) : Option SignedWord :=
  if h : -(signedBound : Int) ≤ i ∧ i < signedBound then some ⟨i, h⟩ else none

/-! ## Powers -/

/-- A power of two. -/
def twoTo (n : Nat) : Nat := Nat.pow 2 n

/-- A power of ten. -/
def tenTo (n : Nat) : Nat := Nat.pow 10 n

/-! ## Sums -/

/-- The sum of some counts. -/
def total : List Nat → Nat
  | [] => 0
  | n :: ns => n + total ns

@[simp] theorem total_nil : total [] = 0 := rfl

@[simp] theorem total_cons (n : Nat) (ns : List Nat) : total (n :: ns) = n + total ns := rfl

@[simp] theorem total_append (a b : List Nat) : total (a ++ b) = total a + total b := by
  induction a with
  | nil => simp
  | cons n a ih => simp [ih, Nat.add_assoc]

theorem total_eq_zero_iff {ns : List Nat} : total ns = 0 ↔ ∀ n ∈ ns, n = 0 := by
  induction ns with
  | nil => simp
  | cons n ns ih => rw [total_cons, Nat.add_eq_zero_iff, ih, List.forall_mem_cons]

theorem length_flatMap_eq_total {α β : Type} (f : α → List β) (l : List α) :
    (l.flatMap f).length = total (l.map fun a => (f a).length) := by
  induction l with
  | nil => rfl
  | cons a l ih => rw [List.flatMap_cons, List.length_append, ih, List.map_cons, total_cons]

end LayerLint
