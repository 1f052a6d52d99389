import LayerLint.Settings

/-!
# `Config` — what a user may set

## Contents
- **Configurations.** `Config`: parallelism, tokens, limits, and switches for rules.
- **Switches.** `Config.isEnabled`: a rule can be switched off by its name or by its code, and is on without an
  entry that says so (`Config.isOn_eq`).
-/

namespace LayerLint

/-! ## Configurations -/

/-- A configuration. -/
structure Config where
  /-- How many units may be analysed at once. -/
  parallelism : Option Nat := none
  naming : Vocabulary := {}
  thresholds : Thresholds := {}
  /-- Switches by rule name or code; an entry may leave its switch open. -/
  switches : List (String × Option Bool) := []
  deriving Repr, DecidableEq, Inhabited

namespace Config

/-- The settings of a configuration, with folded tokens. -/
def settings (c : Config) : Settings := { vocabulary := c.naming.folded, thresholds := c.thresholds }

/-! ## Switches -/

/-- The switch under `key`; one that is missing or left open is on. -/
def isOn (c : Config) (key : String) : Bool :=
  match c.switches.lookup key with
  | some (some b) => b
  | _ => true

/-- Only an entry that is off switches off. -/
theorem isOn_eq (c : Config) (key : String) : c.isOn key = (c.switches.lookup key != some (some false)) := by
  unfold isOn
  cases c.switches.lookup key with
  | none => rfl
  | some entry =>
      cases entry with
      | none => rfl
      | some b => cases b <;> rfl

/-- The rule is on under its name and under its code. -/
def isEnabled (c : Config) (name code : String) : Bool := c.isOn name && c.isOn code

end Config

end LayerLint
