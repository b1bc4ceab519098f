/-!
Settings of the engine: what reading an unbound name means, and which local slots of a compiled
program hold the context object and the namespace handle. Both slots must differ for a program to be
built or run; the settings themselves may hold equal slots, and `validate` tells.
-/

namespace Sigil

inductive UnboundPolicy where
  | lenient
  | strict
  deriving DecidableEq, Repr, Inhabited

abbrev Slot := UInt16

structure Config where
  unbound : UnboundPolicy := .lenient
  contextSlot : Slot := 1
  namespaceSlot : Slot := 2
  deriving DecidableEq, Repr

instance : Inhabited Config := ⟨{}⟩

namespace UnboundPolicy

def name : UnboundPolicy → String
  | .lenient => "lenient"
  | .strict => "strict"

def ofName? (s : String) : Option UnboundPolicy :=
  if s = "lenient" then some .lenient else if s = "strict" then some .strict else none

@[simp] theorem ofName?_name (p : UnboundPolicy) : ofName? p.name = some p := by
  cases p <;> decide

end UnboundPolicy

namespace Config

def conflict? (config : Config) : Option Slot :=
  if config.contextSlot = config.namespaceSlot then some config.contextSlot else none

def validate (config : Config) : Except Slot Config :=
  match config.conflict? with
  | some slot => .error slot
  | none => .ok config

def withUnbound (config : Config) (policy : UnboundPolicy) : Config := { config with unbound := policy }

def withSlots (config : Config) (context space : Slot) : Except Slot Config :=
  validate { config with contextSlot := context, namespaceSlot := space }

def text (config : Config) : String :=
  "\x7b\"unbound\":\"" ++ config.unbound.name ++ "\",\"context-slot\":" ++
    toString config.contextSlot.toNat ++ ",\"namespace-slot\":" ++
    toString config.namespaceSlot.toNat ++ "\x7d"

theorem conflict?_eq_none {config : Config} :
    config.conflict? = none ↔ config.contextSlot ≠ config.namespaceSlot := by
  simp [conflict?]

theorem validate_eq_ok {config valid : Config} :
    config.validate = .ok valid ↔ config.contextSlot ≠ config.namespaceSlot ∧ valid = config := by
  unfold validate conflict?
  by_cases h : config.contextSlot = config.namespaceSlot <;> simp [h, eq_comm]

end Config
end Sigil
