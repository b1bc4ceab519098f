import Sigil.Program.Emission

/-!
Compiled programs, and compiling. A program is built from a node that has been evaluated; its code
must leave one value, whose type is the program's exit type.
-/

namespace Sigil

structure Program where
  source : String
  code : List Instruction
  exit : Descriptor
  config : Config

namespace Program

def checkSlots (config : Config) : Except EvalError Unit :=
  match config.conflict? with
  | some slot => .error (.slotConflict slot)
  | none => .ok ()

/-- The program of what was emitted: exactly one value must be left. -/
def ofEmission (source : String) (config : Config) (em : Emission) : Except EvalError Program :=
  match em.lastType with
  | none => .error (.stackImbalance 0)
  | some exit =>
    if em.popType.depth = 0 then .ok ⟨source, em.code, exit, config⟩
    else .error (.stackImbalance (em.popType.depth + 1))

theorem code_ofEmission {source : String} {config : Config} {em : Emission} {p : Program}
    (h : ofEmission source config em = .ok p) : p.code = em.code := by
  unfold ofEmission at h
  split at h
  · contradiction
  · split at h
    · rw [← Except.ok.inj h]
    · contradiction

def compile (source : CodeSource) (config : Config) : Except EvalError Program :=
  match checkSlots config with
  | .error e => .error e
  | .ok () =>
    if source.compilable then
      match source.generate (.start config) with
      | (.error e, _) => .error e
      | (.ok (), em) => ofEmission source.ast config em
    else .error (.notCompilable source.display)

theorem checkSlots_eq_ok {config : Config} (h : config.contextSlot ≠ config.namespaceSlot) :
    checkSlots config = .ok () := by
  rw [checkSlots, Config.conflict?_eq_none.2 h]

end Program
end Sigil
