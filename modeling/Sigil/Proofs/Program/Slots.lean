import Mathlib.Logic.Equiv.Basic
import Sigil.Proofs.Program.Reached
import Sigil.Proofs.Reference.Code

/-! Renaming slots. A program whose loads and settings are renamed together by an injective renaming runs as
before, and only a slot that the run itself complains about bears its new name. Any two layouts with different
slots are such renamings of each other, so the code of a reference means the same under both. -/

namespace Sigil

variable {σ : Type}

def Config.mapSlots (f : Slot → Slot) (config : Config) : Config :=
  { config with contextSlot := f config.contextSlot, namespaceSlot := f config.namespaceSlot }

def EvalError.mapSlot (f : Slot → Slot) : EvalError → EvalError
  | .invalidSlot slot => .invalidSlot (f slot)
  | .slotConflict slot => .slotConflict (f slot)
  | e => e

namespace Instruction

def mapSlot (f : Slot → Slot) : Instruction → Instruction
  | .load slot => .load (f slot)
  | i => i

def unknownSlot? (config : Config) : Instruction → Option Slot
  | .load slot =>
    if slot = config.contextSlot then none
    else if slot = config.namespaceSlot then none
    else some slot
  | _ => none

end Instruction

def Moment.mapSlot (f : Slot → Slot) (m : Moment σ) : Moment σ :=
  { m with instruction := m.instruction.mapSlot f }

namespace Instruction

variable {config : Config} {ns : Namespace σ} {context : TypedValue}

theorem execute_of_unknownSlot? {i : Instruction} {slot : Slot} (h : i.unknownSlot? config = some slot)
    (stack : List Operand) (s : σ) :
    execute config ns context i stack s = (.error (.invalidSlot slot), s) := by
  cases i with
  | load slot' =>
    simp only [unknownSlot?] at h
    split at h
    · contradiction
    · next hcontext =>
      split at h
      · contradiction
      · next hspace =>
        cases h
        exact (if_neg hcontext).trans (if_neg hspace)
  | _ => contradiction

variable {f : Slot → Slot} (hf : Function.Injective f)
include hf

theorem unknownSlot?_mapSlot (i : Instruction) :
    (i.mapSlot f).unknownSlot? (config.mapSlots f) = (i.unknownSlot? config).map f := by
  cases i with
  | load slot =>
    simp only [mapSlot, unknownSlot?, Config.mapSlots, hf.eq_iff]
    split
    · rfl
    · split <;> rfl
  | _ => rfl

theorem execute_mapSlot {i : Instruction} (h : i.unknownSlot? config = none) (stack : List Operand)
    (s : σ) :
    execute (config.mapSlots f) ns context (i.mapSlot f) stack s =
      execute config ns context i stack s := by
  cases i with
  | load slot =>
    simp only [unknownSlot?] at h
    simp only [mapSlot, execute, Config.mapSlots, hf.eq_iff]
    split
    · rfl
    · split <;> simp_all
  | _ => rfl

theorem reached_mapSlot (code : List Instruction) (stack : List Operand) (s : σ) :
    reached (config.mapSlots f) ns context (code.map (mapSlot f)) stack s =
      (reached config ns context code stack s).map (Moment.mapSlot f) := by
  induction code generalizing stack s with
  | nil => rfl
  | cons i code ih =>
    rw [List.map_cons, reached, reached, List.map_cons]
    cases hunknown : i.unknownSlot? config with
    | none =>
      rw [execute_mapSlot hf hunknown]
      rcases execute config ns context i stack s with ⟨e | stack', s'⟩
      · rfl
      · simp only [ih]
        rfl
    | some slot =>
      have hunknown' : (i.mapSlot f).unknownSlot? (config.mapSlots f) = some (f slot) := by
        rw [unknownSlot?_mapSlot hf, hunknown]
        rfl
      rw [execute_of_unknownSlot? hunknown, execute_of_unknownSlot? hunknown']
      rfl

theorem executeAll_mapSlot {code : List Instruction} {stack : List Operand} {s : σ}
    (known : ∀ m ∈ reached config ns context code stack s, m.instruction.unknownSlot? config = none) :
    executeAll (config.mapSlots f) ns context (code.map (mapSlot f)) stack s =
      executeAll config ns context code stack s := by
  induction code generalizing stack s with
  | nil => rfl
  | cons i code ih =>
    rw [reached, List.forall_mem_cons] at known
    obtain ⟨hi, hlater⟩ := known
    rw [List.map_cons, executeAll, executeAll, execute_mapSlot hf hi]
    rcases hstep : execute config ns context i stack s with ⟨e | stack', s'⟩
    · rfl
    · rw [hstep] at hlater
      exact ih hlater

end Instruction

namespace Program

def mapSlots (f : Slot → Slot) (p : Program) : Program :=
  { p with code := p.code.map (Instruction.mapSlot f), config := p.config.mapSlots f }

/-- What a run itself complains about: its two slots are equal, or it comes to a load of an unknown slot. -/
inductive SlotFault (p : Program) (ns : Namespace σ) (context : TypedValue) (s : σ) : EvalError → Prop
  | conflict (h : p.config.contextSlot = p.config.namespaceSlot) :
      SlotFault p ns context s (.slotConflict p.config.contextSlot)
  | invalid {m : Moment σ} {slot : Slot} (hm : m ∈ p.reached ns context s)
      (h : m.instruction.unknownSlot? p.config = some slot) :
      SlotFault p ns context s (.invalidSlot slot)

variable {ns : Namespace σ} {context : TypedValue} {s : σ}

theorem run_of_conflict {p : Program} (h : p.config.contextSlot = p.config.namespaceSlot) :
    p.run ns context s = (.error (.slotConflict p.config.contextSlot), s) := by
  simp [run, checkSlots, Config.conflict?, h]

theorem reached_of_distinct {p : Program} (h : p.config.contextSlot ≠ p.config.namespaceSlot) :
    p.reached ns context s = Instruction.reached p.config ns context p.code [] s := by
  rw [reached, checkSlots_eq_ok h]

theorem run_of_unknownSlot? {p : Program} {m : Moment σ} (hm : m ∈ p.reached ns context s) {slot : Slot}
    (h : m.instruction.unknownSlot? p.config = some slot) :
    p.run ns context s = (.error (.invalidSlot slot), m.store) :=
  (run_of_execute_error hm (Instruction.execute_of_unknownSlot? h m.stack m.store)).2

section

variable {f : Slot → Slot} (hf : Function.Injective f)
include hf

theorem reached_mapSlots (p : Program) :
    (p.mapSlots f).reached ns context s = (p.reached ns context s).map (Moment.mapSlot f) := by
  by_cases h : p.config.contextSlot = p.config.namespaceSlot
  · simp [reached, checkSlots, Config.conflict?, mapSlots, Config.mapSlots, h]
  · have h' : (p.mapSlots f).config.contextSlot ≠ (p.mapSlots f).config.namespaceSlot := hf.ne h
    rw [reached_of_distinct h, reached_of_distinct h']
    exact Instruction.reached_mapSlot hf p.code [] s

theorem run_mapSlots_of_slotFault {p : Program} {e : EvalError} (h : p.SlotFault ns context s e) :
    ∃ s', p.run ns context s = (.error e, s') ∧
      (p.mapSlots f).run ns context s = (.error (e.mapSlot f), s') := by
  cases h with
  | conflict h => exact ⟨s, run_of_conflict h, run_of_conflict (congrArg f h)⟩
  | @invalid m slot hm h =>
    have hm' : m.mapSlot f ∈ (p.mapSlots f).reached ns context s := by
      rw [reached_mapSlots hf]
      exact List.mem_map_of_mem hm
    have h' : (m.mapSlot f).instruction.unknownSlot? (p.mapSlots f).config = some (f slot) := by
      simp only [Moment.mapSlot, mapSlots, Instruction.unknownSlot?_mapSlot hf, h, Option.map_some]
    exact ⟨m.store, run_of_unknownSlot? hm h, run_of_unknownSlot? hm' h'⟩

theorem run_mapSlots {p : Program} (h : ∀ e, ¬p.SlotFault ns context s e) :
    (p.mapSlots f).run ns context s = p.run ns context s := by
  have distinct : p.config.contextSlot ≠ p.config.namespaceSlot := fun heq => h _ (.conflict heq)
  have distinct' : (p.mapSlots f).config.contextSlot ≠ (p.mapSlots f).config.namespaceSlot := hf.ne distinct
  have known : ∀ m ∈ Instruction.reached p.config ns context p.code [] s,
      m.instruction.unknownSlot? p.config = none := by
    intro m hm
    rw [← reached_of_distinct distinct] at hm
    cases hunknown : m.instruction.unknownSlot? p.config with
    | none => rfl
    | some slot => exact absurd (.invalid hm hunknown) (h _)
  rw [run, run, checkSlots_eq_ok distinct, checkSlots_eq_ok distinct']
  simp only [mapSlots, Instruction.executeAll_mapSlot hf known]

end

end Program

namespace Reference

variable (r : Reference)

theorem program_mapSlots (f : Slot → Slot) (config : Config) (exit : Descriptor) :
    (r.program config exit).mapSlots f = r.program (config.mapSlots f) exit := by
  have hname : (r.name.code config.contextSlot config.namespaceSlot).map (Instruction.mapSlot f) =
      r.name.code (f config.contextSlot) (f config.namespaceSlot) := by
    cases r.name <;> rfl
  have hcast : exit.castCode.map (Instruction.mapSlot f) = exit.castCode := by
    unfold Descriptor.castCode
    split <;> rfl
  simp only [Program.mapSlots, program, Config.mapSlots, List.map_append, hname, hcast]

theorem unknownSlot?_of_mem_program {config : Config} {exit : Descriptor} {i : Instruction}
    (h : i ∈ (r.program config exit).code) : i.unknownSlot? config = none := by
  rcases List.mem_append.1 h with hname | hcast
  · cases hr : r.name <;>
      simp only [hr, VariableName.code, List.mem_cons, List.not_mem_nil, or_false] at hname
    · simp [hname, Instruction.unknownSlot?]
    · simp [hname, Instruction.unknownSlot?]
    · rcases hname with rfl | rfl | rfl <;> simp [Instruction.unknownSlot?]
  · unfold Descriptor.castCode at hcast
    split at hcast
    · contradiction
    · rw [List.mem_singleton.1 hcast]
      rfl

theorem not_slotFault {config : Config} (distinct : config.contextSlot ≠ config.namespaceSlot)
    (exit : Descriptor) (ns : Namespace σ) (context : TypedValue) (s : σ) (e : EvalError) :
    ¬(r.program config exit).SlotFault ns context s e := by
  intro h
  cases h with
  | conflict heq => exact distinct heq
  | @invalid m slot hm hunknown =>
    have hcode : m.instruction ∈ (r.program config exit).code :=
      (Program.reached_prefix _ s).subset (List.mem_map_of_mem hm)
    have hknown : m.instruction.unknownSlot? config = none := r.unknownSlot?_of_mem_program hcode
    have hunknown : m.instruction.unknownSlot? config = some slot := hunknown
    rw [hknown] at hunknown
    contradiction

end Reference

theorem exists_renaming {a b a' b' : Slot} (h : a ≠ b) (h' : a' ≠ b') :
    ∃ f : Slot → Slot, Function.Injective f ∧ f a = a' ∧ f b = b' := by
  let first := Equiv.swap a a'
  have hfirst : first a = a' := Equiv.swap_apply_left a a'
  -- What is swapped second is not `a'`, which stays where the first swap took it.
  have hb : a' ≠ first b := by
    rw [← hfirst]
    exact first.injective.ne h
  refine ⟨first.trans (Equiv.swap (first b) b'), Equiv.injective _, ?_, ?_⟩
  · rw [Equiv.trans_apply, hfirst, Equiv.swap_apply_of_ne_of_ne hb h']
  · rw [Equiv.trans_apply, Equiv.swap_apply_left]

theorem Config.exists_mapSlots {config config' : Config}
    (distinct : config.contextSlot ≠ config.namespaceSlot)
    (distinct' : config'.contextSlot ≠ config'.namespaceSlot) (hpolicy : config.unbound = config'.unbound) :
    ∃ f : Slot → Slot, Function.Injective f ∧ config.mapSlots f = config' := by
  obtain ⟨f, hf, hcontext, hspace⟩ := exists_renaming distinct distinct'
  exact ⟨f, hf, by rw [mapSlots, hpolicy, hcontext, hspace]⟩

namespace Reference

theorem run_program_of_layouts (r : Reference) {config config' : Config}
    (distinct : config.contextSlot ≠ config.namespaceSlot)
    (distinct' : config'.contextSlot ≠ config'.namespaceSlot) (hpolicy : config.unbound = config'.unbound)
    (exit : Descriptor) (ns : Namespace σ) (context : TypedValue) (s : σ) :
    (r.program config exit).run ns context s = (r.program config' exit).run ns context s := by
  obtain ⟨f, hf, rfl⟩ := Config.exists_mapSlots distinct distinct' hpolicy
  rw [← r.program_mapSlots f]
  exact (Program.run_mapSlots hf (r.not_slotFault distinct exit ns context s)).symm

end Reference

namespace Program

/-- The layout of the slots does not change what a program means. Only a run that complains about a slot
itself complains about the renamed one. -/
theorem run_under_renamed_slots :
    (∀ f : Slot → Slot, Function.Injective f →
      ∀ (p : Program) (ns : Namespace σ) (context : TypedValue) (s : σ),
        (∀ e, p.SlotFault ns context s e →
          ∃ s', p.run ns context s = (.error e, s') ∧
            (p.mapSlots f).run ns context s = (.error (e.mapSlot f), s')) ∧
        ((∀ e, ¬p.SlotFault ns context s e) →
          (p.mapSlots f).run ns context s = p.run ns context s)) ∧
      ∀ (r : Reference) (config config' : Config), r.isCompilable = true →
        config.contextSlot ≠ config.namespaceSlot → config'.contextSlot ≠ config'.namespaceSlot →
          config.unbound = config'.unbound →
            ∃ p p', compile r.codeSource config = .ok p ∧ compile r.codeSource config' = .ok p' ∧
              ∀ (ns : Namespace σ) (context : TypedValue) (s : σ),
                p.run ns context s = p'.run ns context s := by
  refine ⟨fun f hf p ns context s => ?_, fun r config config' signed distinct distinct' hpolicy => ?_⟩
  · exact ⟨fun e h => run_mapSlots_of_slotFault hf h, fun h => run_mapSlots hf h⟩
  · obtain ⟨exit, hexit⟩ := Option.isSome_iff_exists.1 signed
    refine ⟨r.program config exit, r.program config' exit, ?_, ?_, ?_⟩
    · exact Reference.compile_eq_ok_iff.2 ⟨distinct, exit, hexit, rfl⟩
    · exact Reference.compile_eq_ok_iff.2 ⟨distinct', exit, hexit, rfl⟩
    · exact r.run_program_of_layouts distinct distinct' hpolicy exit

theorem run_under_renamed_slots_exchanged :
    -- Slots 1 and 7 are exchanged; a namespace that itself reports slot 1 goes on doing so.
    let f : Slot → Slot := Equiv.swap 1 7
    let lost : Program := ⟨"", [.push "x", .load 7], .any, {}⟩
    let clash : Program := ⟨"", [], .any, ⟨.lenient, 1, 1⟩⟩
    let failing : Namespace Store :=
      { Namespace.standard with lookup := fun _ s => (.error (.invalidSlot 1), s) }
    let x : Reference := .record (.ofIdentifier ⟨.named "x" (by decide), .unlocated⟩) none
    Function.Injective f ∧
      (lost.run .standard .null {}).1 = .error (.invalidSlot 7) ∧
      ((lost.mapSlots f).run .standard .null {}).1 = .error (.invalidSlot 1) ∧
      ((clash.mapSlots f).run .standard .null {}).1 = .error (.slotConflict 7) ∧
      ((x.program {} .any).run failing .null {}).1 = .error (.invalidSlot 1) ∧
      (((x.program {} .any).mapSlots f).run failing .null {}).1 = .error (.invalidSlot 1) ∧
      ∃ p p', compile x.codeSource ⟨.lenient, 1, 2⟩ = .ok p ∧
        compile x.codeSource ⟨.lenient, 2, 1⟩ = .ok p' ∧
          p.run failing .null {} = p'.run failing .null {} := by
  intro f lost clash failing x
  have hf : Function.Injective f := (Equiv.swap (1 : Slot) 7).injective
  obtain ⟨hrenamed, hlayouts⟩ := run_under_renamed_slots (σ := Store)
  have hlost : lost.SlotFault .standard .null ({} : Store) (.invalidSlot 7) :=
    .invalid (m := ⟨.load 7, [.name "x"], {}⟩) (List.mem_cons_of_mem _ List.mem_cons_self) rfl
  obtain ⟨s, hrun, hrun'⟩ := (hrenamed f hf lost .standard .null {}).1 _ hlost
  obtain ⟨s', -, hclash⟩ := (hrenamed f hf clash .standard .null {}).1 _ (.conflict rfl)
  have hown := (hrenamed f hf (x.program {} .any) failing .null {}).2
    (x.not_slotFault (by decide) .any failing .null {})
  obtain ⟨p, p', hp, hp', hsame⟩ :=
    hlayouts x ⟨.lenient, 1, 2⟩ ⟨.lenient, 2, 1⟩ rfl (by decide) (by decide) rfl
  refine ⟨hf, congrArg Prod.fst hrun, ?_, ?_, rfl, by rw [hown]; rfl, p, p', hp, hp',
    hsame failing .null {}⟩
  · rw [hrun']
    rfl
  · rw [hclash]
    rfl

end Program
end Sigil
