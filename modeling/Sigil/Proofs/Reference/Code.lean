import Sigil.Program.Run
import Sigil.Reference.Emission

/-! The code of a reference and what it does. On any stack it pushes the value that the name stands for,
cast to the exit type, or fails as obtaining the value or the cast does. -/

namespace Sigil

variable {σ : Type}

namespace VariableName

def code (context space : Slot) : VariableName → List Instruction
  | .named text _ => [.load space, .push text, .lookup]
  | _ => [.load context]

/-- The value that a name stands for in compiled code: the context object for a reserved name, and for
any other what the namespace holds, with the policy's meaning of a name that is not bound. -/
def obtain (policy : UnboundPolicy) (ns : Namespace σ) (context : TypedValue) :
    VariableName → Attempt σ (Option Value)
  | .named text _, s =>
    match ns.lookup text s with
    | (.error e, s) => (.error e, s)
    | (.ok (some t), s) => (.ok t.value, s)
    | (.ok none, s) =>
      match policy with
      | .lenient => (.ok none, s)
      | .strict => (.error (.unboundVariable text), s)
  | _, s => (.ok context.value, s)

theorem obtain_named_fst (policy : UnboundPolicy) (ns : Namespace σ) (context : TypedValue)
    (text : String) (free : IsFreeName text) (s : σ) :
    ((named text free).obtain policy ns context s).1 =
      match (ns.lookup text s).1 with
      | .error e => .error e
      | .ok (some t) => .ok t.value
      | .ok none =>
        match policy with
        | .lenient => .ok none
        | .strict => .error (.unboundVariable text) := by
  simp only [obtain]
  rcases ns.lookup text s with ⟨e | _ | t, s'⟩
  · rfl
  · cases policy <;> rfl
  · rfl

end VariableName

namespace Descriptor

def castCode (d : Descriptor) : List Instruction := if d.isAny then [] else [.cast d]

def pass (d : Descriptor) : Option Value → Except EvalError (Option Value)
  | none => .ok none
  | some v => if d.accepts v then .ok (some v) else .error (.classCast d v.runtimeType.name)

theorem checkCast_of_isAccessible {d : Descriptor} (h : d.isAccessible = true) (v : Option Value) :
    checkCast d v = (d.pass v).map fun _ => () := by
  have hcast : checkCast d v =
      match v with
      | none => .ok ()
      | some v => if d.accepts v then .ok () else .error (.classCast d v.runtimeType.name) := by
    unfold checkCast
    split
    · next hrestricted => rw [h] at hrestricted; contradiction
    · rfl
  rw [hcast]
  cases v with
  | none => rfl
  | some v =>
    simp only [pass]
    split <;> rfl

theorem eq_of_pass {d : Descriptor} {v w : Option Value} (h : d.pass v = .ok w) : w = v := by
  cases v with
  | none => exact (Except.ok.inj h).symm
  | some v =>
    simp only [pass] at h
    split at h
    · exact (Except.ok.inj h).symm
    · contradiction

theorem pass_any (v : Option Value) : any.pass v = .ok v := by
  cases v <;> rfl

end Descriptor

namespace Instruction

theorem executeAll_singleton (config : Config) (ns : Namespace σ) (context : TypedValue)
    (i : Instruction) (stack : List Operand) (s : σ) :
    executeAll config ns context [i] stack s = execute config ns context i stack s := by
  rw [executeAll]
  split
  · next e s' h => rw [h]
  · next stack' s' h => rw [h, executeAll]

theorem executeAll_code {config : Config} (distinct : config.contextSlot ≠ config.namespaceSlot)
    (ns : Namespace σ) (context : TypedValue) (name : VariableName) (stack : List Operand) (s : σ) :
    executeAll config ns context (name.code config.contextSlot config.namespaceSlot) stack s =
      match name.obtain config.unbound ns context s with
      | (.error e, s) => (.error e, s)
      | (.ok v, s) => (.ok (.value v :: stack), s) := by
  cases name with
  | this => simp [VariableName.code, VariableName.obtain, executeAll, execute]
  | root => simp [VariableName.code, VariableName.obtain, executeAll, execute]
  | named text free =>
    simp only [VariableName.code, VariableName.obtain, executeAll, execute, distinct.symm, if_false,
      if_true]
    rcases ns.lookup text s with ⟨e | _ | t, s'⟩
    · rfl
    · cases config.unbound <;> rfl
    · rfl

theorem executeAll_castCode {d : Descriptor} (h : d.isAccessible = true) (config : Config)
    (ns : Namespace σ) (context : TypedValue) (v : Option Value) (stack : List Operand) (s : σ) :
    executeAll config ns context d.castCode (.value v :: stack) s =
      ((d.pass v).map fun v => .value v :: stack, s) := by
  unfold Descriptor.castCode
  split
  · next hany =>
    -- No code is emitted for `any`, which everything passes.
    rw [Descriptor.isAny_iff.1 hany, Descriptor.pass_any]
    rfl
  · rw [executeAll_singleton]
    simp only [execute, Descriptor.checkCast_of_isAccessible h]
    cases hpass : d.pass v with
    | error e => rfl
    | ok w =>
      rw [Descriptor.eq_of_pass hpass]
      rfl

end Instruction

namespace Reference

def program (r : Reference) (config : Config) (exit : Descriptor) : Program :=
  ⟨r.display, r.name.code config.contextSlot config.namespaceSlot ++ exit.castCode, exit, config⟩

theorem emitName_eq (em : Emission) (name : VariableName) :
    emitName em name = { em with code := em.code ++ name.code em.contextSlot em.namespaceSlot } := by
  cases name <;> simp [emitName, VariableName.code, Emission.emit]

theorem emitCast_eq (em : Emission) (d : Descriptor) :
    em.emitCast d = { em with code := em.code ++ d.castCode } := by
  unfold Emission.emitCast Descriptor.castCode
  split
  · simp
  · rfl

theorem generate_eq {r : Reference} {exit : Descriptor} (h : r.exit = some exit) (em : Emission) :
    r.generate em =
      (.ok (), ⟨em.code ++ (r.name.code em.contextSlot em.namespaceSlot ++ exit.castCode),
        em.contextSlot, em.namespaceSlot, exit :: em.leaves⟩) := by
  rw [generate, h]
  simp only [emitName_eq, emitCast_eq, Emission.pushType, List.append_assoc]

theorem compile_codeSource (r : Reference) {config : Config}
    (distinct : config.contextSlot ≠ config.namespaceSlot) :
    Program.compile r.codeSource config =
      match r.exit with
      | none => .error (.notCompilable r.display)
      | some exit => .ok (r.program config exit) := by
  cases hexit : r.exit with
  | none => simp [Program.compile, Program.checkSlots_eq_ok distinct, codeSource, isCompilable, hexit]
  | some exit =>
    simp only [Program.compile, Program.checkSlots_eq_ok distinct, codeSource, isCompilable, hexit,
      Option.isSome_some, if_true, generate_eq hexit]
    rfl

theorem compile_eq_ok_iff {r : Reference} {config : Config} {p : Program} :
    Program.compile r.codeSource config = .ok p ↔
      config.contextSlot ≠ config.namespaceSlot ∧
        ∃ exit, r.exit = some exit ∧ p = r.program config exit := by
  by_cases distinct : config.contextSlot = config.namespaceSlot
  · simp [Program.compile, Program.checkSlots, Config.conflict?, distinct]
  · rw [compile_codeSource r distinct]
    cases r.exit with
    | none => simp
    | some exit => simp [distinct, eq_comm]

theorem run_program {r : Reference} {config : Config} {exit : Descriptor}
    (distinct : config.contextSlot ≠ config.namespaceSlot) (h : exit.isAccessible = true)
    (ns : Namespace σ) (context : TypedValue) (s : σ) :
    (r.program config exit).run ns context s =
      match r.name.obtain config.unbound ns context s with
      | (.error e, s) => (.error e, s)
      | (.ok v, s) => ((exit.pass v).map fun v => ⟨v, some exit⟩, s) := by
  simp only [Program.run, program, Program.checkSlots_eq_ok distinct, Instruction.executeAll_append,
    Instruction.executeAll_code distinct]
  rcases r.name.obtain config.unbound ns context s with ⟨e | v, s'⟩
  · rfl
  · simp only [Instruction.executeAll_castCode h]
    cases exit.pass v <;> rfl

theorem run_program_fst {r : Reference} {config : Config} {exit : Descriptor}
    (distinct : config.contextSlot ≠ config.namespaceSlot) (h : exit.isAccessible = true)
    (ns : Namespace σ) (context : TypedValue) (s : σ) :
    ((r.program config exit).run ns context s).1 =
      (r.name.obtain config.unbound ns context s).1.bind fun v =>
        (exit.pass v).map fun v => ⟨v, some exit⟩ := by
  rw [run_program distinct h]
  rcases r.name.obtain config.unbound ns context s with ⟨e | v, s'⟩ <;> rfl

end Reference
end Sigil
