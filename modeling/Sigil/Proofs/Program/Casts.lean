import Sigil.Proofs.Program.Check

/-! Casts that may be left out of any program: one that repeats the cast before it, and one to `any` behind an
instruction that leaves a value. Behind any other operand the cast to `any` fails, so it is not for nothing
there. The code of a reference leaves out its cast to `any`, and so means the same as with it. -/

namespace Sigil

variable {σ : Type}

namespace Instruction

open Operand (Kind)

/-- Two pieces of code that do the same on every stack, whatever they run against. -/
def Interchangeable (config : Config) (code code' : List Instruction) : Prop :=
  ∀ (σ : Type) (ns : Namespace σ) (context : TypedValue) (stack : List Operand) (s : σ),
    executeAll config ns context code stack s = executeAll config ns context code' stack s

namespace Interchangeable

variable {config : Config} {code code' : List Instruction}

theorem refl (config : Config) (code : List Instruction) : Interchangeable config code code :=
  fun _ _ _ _ _ => rfl

theorem symm (h : Interchangeable config code code') : Interchangeable config code' code :=
  fun σ ns context stack s => (h σ ns context stack s).symm

theorem within (h : Interchangeable config code code') (p q : List Instruction) :
    Interchangeable config (p ++ (code ++ q)) (p ++ (code' ++ q)) := by
  intro σ ns context stack s
  rw [executeAll_append, executeAll_append]
  rcases executeAll config ns context p stack s with ⟨e | stack', s'⟩
  · rfl
  · simp only [executeAll_append, h σ ns context stack' s']

theorem run_eq (h : Interchangeable config code code') (p q : List Instruction) (source : String)
    (exit : Descriptor) (ns : Namespace σ) (context : TypedValue) (s : σ) :
    Program.run ⟨source, p ++ (code ++ q), exit, config⟩ ns context s =
      Program.run ⟨source, p ++ (code' ++ q), exit, config⟩ ns context s := by
  simp only [Program.run, h.within p q σ ns context [] s]

end Interchangeable

theorem interchangeable_of_keeps {config : Config} {i j : Instruction}
    (keeps : ∀ {σ : Type} (ns : Namespace σ) (context : TypedValue) (stack stack' : List Operand)
      (s s' : σ), execute config ns context i stack s = (.ok stack', s') →
        execute config ns context j stack' s' = (.ok stack', s')) :
    Interchangeable config [i, j] [i] := by
  intro σ ns context stack s
  simp only [executeAll]
  rcases hstep : execute config ns context i stack s with ⟨e | stack', s'⟩
  · rfl
  · simp only [keeps ns context stack stack' s s' hstep]

def leaves (config : Config) : Instruction → Option Kind
  | .load slot =>
    if slot = config.contextSlot then some .value
    else if slot = config.namespaceSlot then some .space
    else none
  | .push _ => some .name
  | .lookup => some .value
  | .cast _ => some .value

variable {config : Config} {ns : Namespace σ} {context : TypedValue}

theorem execute_cast_eq_ok {type : Descriptor} {stack stack' : List Operand} {s s' : σ}
    (h : execute config ns context (.cast type) stack s = (.ok stack', s')) :
    ∃ v rest, stack = .value v :: rest ∧ checkCast type v = .ok () ∧ stack' = stack ∧ s' = s := by
  rcases cast_cases config ns context type stack s with ⟨v, rest, rfl⟩ | ⟨-, hunderflow⟩
  · simp only [execute] at h
    cases hcheck : checkCast type v with
    | error e => simp [hcheck, Except.map] at h
    | ok =>
      rw [hcheck] at h
      cases h
      exact ⟨v, rest, rfl, hcheck, rfl, rfl⟩
  · rw [hunderflow] at h
    simp at h

theorem execute_leaves {i : Instruction} {stack stack' : List Operand} {s s' : σ}
    (h : execute config ns context i stack s = (.ok stack', s')) :
    ∃ top rest, stack' = top :: rest ∧ i.leaves config = some top.kind := by
  cases i with
  | load slot =>
    simp only [execute] at h
    split at h
    · next hcontext =>
      cases h
      exact ⟨_, _, rfl, if_pos hcontext⟩
    · next hcontext =>
      split at h
      · next hspace =>
        cases h
        exact ⟨_, _, rfl, (if_neg hcontext).trans (if_pos hspace)⟩
      · simp at h
  | push text =>
    cases h
    exact ⟨_, _, rfl, rfl⟩
  | lookup =>
    rcases lookup_cases config ns context stack s with ⟨text, rest, rfl⟩ | ⟨-, hunderflow⟩
    · simp only [execute] at h
      split at h
      · simp at h
      · cases h
        exact ⟨_, _, rfl, rfl⟩
      · split at h
        · cases h
          exact ⟨_, _, rfl, rfl⟩
        · simp at h
    · rw [hunderflow] at h
      simp at h
  | cast type =>
    obtain ⟨v, rest, rfl, -, rfl, -⟩ := execute_cast_eq_ok h
    exact ⟨_, _, rfl, rfl⟩

theorem execute_cast_any_value (v : Option Value) (rest : List Operand) (s : σ) :
    execute config ns context (.cast .any) (.value v :: rest) s = (.ok (.value v :: rest), s) := by
  cases v <;> rfl

theorem execute_cast_of_kind_ne {top : Operand} (h : top.kind ≠ .value) (type : Descriptor)
    (rest : List Operand) (s : σ) :
    execute config ns context (.cast type) (top :: rest) s = (.error .stackUnderflow, s) := by
  cases top with
  | value v => exact absurd rfl h
  | space => rfl
  | name text => rfl

theorem interchangeable_cast_twice (config : Config) (type : Descriptor) :
    Interchangeable config [.cast type, .cast type] [.cast type] := by
  refine interchangeable_of_keeps fun ns context stack stack' s s' h => ?_
  obtain ⟨v, rest, rfl, hcheck, rfl, rfl⟩ := execute_cast_eq_ok h
  exact h

theorem interchangeable_cast_any {i : Instruction} (h : i.leaves config = some .value) :
    Interchangeable config [i, .cast .any] [i] := by
  refine interchangeable_of_keeps fun ns context stack stack' s s' hstep => ?_
  obtain ⟨top, rest, rfl, hleaves⟩ := execute_leaves hstep
  cases top with
  | value v => exact execute_cast_any_value v rest s'
  | space => simp [h, Operand.kind] at hleaves
  | name text => simp [h, Operand.kind] at hleaves

theorem exists_execute_no_value (distinct : config.contextSlot ≠ config.namespaceSlot) {i : Instruction}
    (hi : i = .load config.namespaceSlot ∨ ∃ text, i = .push text) (ns : Namespace σ)
    (context : TypedValue) (stack : List Operand) (s : σ) :
    ∃ kind stack', i.leaves config = some kind ∧ kind ≠ .value ∧
      execute config ns context i stack s = (.ok stack', s) := by
  rcases hi with rfl | ⟨text, rfl⟩
  · exact ⟨.space, .space :: stack, (if_neg distinct.symm).trans (if_pos rfl), by decide,
      (if_neg distinct.symm).trans (if_pos rfl)⟩
  · exact ⟨.name, .name text :: stack, rfl, by decide, rfl⟩

theorem executeAll_cast_underflow {p : List Instruction} {i : Instruction} {kind : Kind}
    (hleaves : i.leaves config = some kind) (hkind : kind ≠ .value) (type : Descriptor)
    (q : List Instruction) {start stack : List Operand} {s s' s'' : σ}
    (hp : executeAll config ns context p start s = (.ok stack, s')) {stack' : List Operand}
    (hi : execute config ns context i stack s' = (.ok stack', s'')) :
    executeAll config ns context (p ++ i :: .cast type :: q) start s = (.error .stackUnderflow, s'') := by
  obtain ⟨top, rest, rfl, htop⟩ := execute_leaves hi
  have hne : top.kind ≠ .value := by
    rw [hleaves] at htop
    exact Option.some.inj htop ▸ hkind
  rw [executeAll_append, hp]
  simp only [executeAll, hi, execute_cast_of_kind_ne hne]

end Instruction

open Instruction (Interchangeable)

namespace VariableName

theorem code_eq_append (name : VariableName) (config : Config) (space : Slot) :
    ∃ first last, name.code config.contextSlot space = first ++ [last] ∧
      last.leaves config = some .value := by
  cases name with
  | this => exact ⟨[], .load config.contextSlot, rfl, if_pos rfl⟩
  | root => exact ⟨[], .load config.contextSlot, rfl, if_pos rfl⟩
  | named text free => exact ⟨[.load space, .push text], .lookup, rfl, rfl⟩

theorem interchangeable_castCode (name : VariableName) (config : Config) (space : Slot)
    (type : Descriptor) :
    Interchangeable config (name.code config.contextSlot space ++ type.castCode)
      (name.code config.contextSlot space ++ [.cast type]) := by
  unfold Descriptor.castCode
  split
  · next hany =>
    obtain rfl := Descriptor.isAny_iff.1 hany
    obtain ⟨first, last, hcode, hlast⟩ := name.code_eq_append config space
    have hcast := (Instruction.interchangeable_cast_any hlast).symm.within first []
    simpa only [hcode, List.append_nil, List.append_assoc, List.singleton_append] using hcast
  · exact .refl _ _

end VariableName

namespace Reference

def generateCasting (r : Reference) (em : Emission) : Except EvalError Unit × Emission :=
  match r.exit with
  | none => (.error (.notCompilable r.display), em)
  | some exit => (.ok (), ((emitName em r.name).emit (.cast exit)).pushType exit)

theorem generateCasting_eq {r : Reference} {exit : Descriptor} (h : r.exit = some exit) (em : Emission) :
    r.generateCasting em =
      (.ok (), ⟨em.code ++ (r.name.code em.contextSlot em.namespaceSlot ++ [.cast exit]),
        em.contextSlot, em.namespaceSlot, exit :: em.leaves⟩) := by
  rw [generateCasting, h]
  simp only [emitName_eq, Emission.emit, Emission.pushType, List.append_assoc]

theorem generate_interchangeable (r : Reference) {em : Emission} {config : Config}
    (hslot : em.contextSlot = config.contextSlot) :
    (r.generate em).1 = (r.generateCasting em).1 ∧
      (r.generate em).2.leaves = (r.generateCasting em).2.leaves ∧
      Interchangeable config (r.generate em).2.code (r.generateCasting em).2.code := by
  cases hexit : r.exit with
  | none =>
    simp only [generate, generateCasting, hexit, true_and]
    exact .refl _ _
  | some exit =>
    rw [generate_eq hexit, generateCasting_eq hexit, hslot]
    have hcode := (r.name.interchangeable_castCode config em.namespaceSlot exit).within em.code []
    exact ⟨rfl, rfl, by simpa only [List.append_nil] using hcode⟩

end Reference

namespace Program

/-- A cast may be left out of a program behind one that is the same. A cast to `any` may be left out
wherever a value is on top, and underflows elsewhere, if the run gets there. -/
theorem redundant_casts_left_out (config : Config) (p q : List Instruction) (source : String)
    (exit : Descriptor) (ns : Namespace σ) (context : TypedValue) (s : σ) :
    let run (code : List Instruction) := Program.run ⟨source, code, exit, config⟩ ns context s
    (∀ type, run (p ++ .cast type :: .cast type :: q) = run (p ++ .cast type :: q)) ∧
      (∀ i, (i = .load config.contextSlot ∨ i = .lookup ∨ ∃ type, i = .cast type) →
        run (p ++ i :: .cast .any :: q) = run (p ++ i :: q)) ∧
      (config.contextSlot ≠ config.namespaceSlot →
        run (.cast .any :: q) = (.error .stackUnderflow, s) ∧
          ∀ i, (i = .load config.namespaceSlot ∨ ∃ text, i = .push text) →
            ∀ stack s', Instruction.executeAll config ns context p [] s = (.ok stack, s') →
              run (p ++ i :: .cast .any :: q) = (.error .stackUnderflow, s')) ∧
      ∀ (r : Reference) (em : Emission), em.contextSlot = config.contextSlot →
        (r.generate em).1 = (r.generateCasting em).1 ∧
          (r.generate em).2.leaves = (r.generateCasting em).2.leaves ∧
          run ((r.generate em).2.code ++ q) = run ((r.generateCasting em).2.code ++ q) := by
  intro run
  refine ⟨fun type => ?_, fun i hi => ?_, fun distinct => ⟨?_, fun i hi stack s' hp => ?_⟩,
    fun r em hslot => ?_⟩
  · exact (Instruction.interchangeable_cast_twice config type).run_eq p q source exit ns context s
  · have hleaves : i.leaves config = some .value := by
      rcases hi with rfl | rfl | ⟨type, rfl⟩
      · exact if_pos rfl
      · rfl
      · rfl
    exact (Instruction.interchangeable_cast_any hleaves).run_eq p q source exit ns context s
  · simp only [run, Program.run, checkSlots_eq_ok distinct]
    rfl
  · obtain ⟨kind, stack', hleaves, hkind, hstep⟩ :=
      Instruction.exists_execute_no_value distinct hi ns context stack s'
    have hcode := Instruction.executeAll_cast_underflow hleaves hkind .any q hp hstep
    simp only [run, Program.run, checkSlots_eq_ok distinct, hcode]
  · obtain ⟨houtcome, hleaves, hcode⟩ := r.generate_interchangeable hslot
    exact ⟨houtcome, hleaves, hcode.run_eq [] q source exit ns context s⟩

theorem redundant_casts_left_out_restricted :
    let vault : Value := .object ⟨1, ⟨"Vault", .restricted⟩, none⟩
    let bound : Store := .ofList [("x", .ofValue vault)] false
    let x : Reference := .record (.ofIdentifier ⟨.named "x" (by decide), .unlocated⟩) (some vault)
    let run (code : List Instruction) := Program.run ⟨"#x", code, .any, {}⟩ .standard .null bound
    run [.load 2, .push "x", .lookup] = (.ok ⟨some vault, some .any⟩, bound) ∧
      run [.load 2, .push "x", .lookup, .cast .any] = run [.load 2, .push "x", .lookup] ∧
      run [.load 2, .cast .any, .push "x", .lookup] = (.error .stackUnderflow, bound) ∧
      (x.generate (.start {})).2.code = [.load 2, .push "x", .lookup] ∧
      (x.generateCasting (.start {})).2.code = [.load 2, .push "x", .lookup, .cast .any] ∧
      run (x.generate (.start {})).2.code = run (x.generateCasting (.start {})).2.code := by
  intro vault bound x run
  obtain ⟨-, hredundant, -, hemitted⟩ :=
    redundant_casts_left_out {} [.load 2, .push "x"] [] "#x" .any .standard .null bound
  obtain ⟨-, -, hunderflow, -⟩ :=
    redundant_casts_left_out {} [] [.push "x", .lookup] "#x" .any .standard .null bound
  obtain ⟨-, hrefused⟩ := hunderflow (by decide)
  obtain ⟨-, -, hcode⟩ := hemitted x (.start {}) rfl
  exact ⟨rfl, hredundant .lookup (.inr (.inl rfl)), hrefused (.load 2) (.inl rfl) [] bound rfl, rfl, rfl,
    hcode⟩

end Program
end Sigil
