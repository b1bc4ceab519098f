import Sigil.Namespace.Store
import Sigil.Proofs.Reference.Code

/-! Programs checked without being run: the code is followed over the kinds of the operands alone. Whatever
the frame, a program that passes fails only for the data it meets, and one that is refused at a position
fails there as the check says, unless the data made it fail before. -/

namespace Sigil

variable {σ : Type}

inductive Operand.Kind where
  | value
  | space
  | name
  deriving DecidableEq, Repr

def Operand.kind : Operand → Operand.Kind
  | .value _ => .value
  | .space => .space
  | .name _ => .name

def Descriptor.checkNamed : Descriptor → Except EvalError Unit
  | .object ⟨name, .restricted⟩ => .error (.illegalAccess name)
  | _ => .ok ()

theorem Descriptor.restricted_or_isAccessible (d : Descriptor) :
    (∃ name, d = .object ⟨name, .restricted⟩) ∨ d.isAccessible = true ∧ d.checkNamed = .ok () := by
  cases d with
  | object type =>
    obtain ⟨name, visible | restricted⟩ := type
    · exact .inr ⟨rfl, rfl⟩
    · exact .inl ⟨name, rfl⟩
  | _ => exact .inr ⟨rfl, rfl⟩

namespace Instruction

open Operand (Kind)

/-- What an instruction makes of the kinds on the stack, the topmost operand first. -/
def check (config : Config) : Instruction → List Kind → Except EvalError (List Kind)
  | .load slot, kinds =>
    if slot = config.contextSlot then .ok (.value :: kinds)
    else if slot = config.namespaceSlot then .ok (.space :: kinds)
    else .error (.invalidSlot slot)
  | .push _, kinds => .ok (.name :: kinds)
  | .lookup, .name :: .space :: kinds => .ok (.value :: kinds)
  | .lookup, _ => .error .stackUnderflow
  | .cast type, .value :: kinds => type.checkNamed.map fun _ => .value :: kinds
  | .cast _, _ => .error .stackUnderflow

theorem check_cast (config : Config) (type : Descriptor) (kinds : List Kind) :
    check config (.cast type) (.value :: kinds) = type.checkNamed.map fun _ => .value :: kinds := rfl

def checkAll (config : Config) : List Instruction → List Kind → Except (Nat × EvalError) (List Kind)
  | [], kinds => .ok kinds
  | i :: code, kinds =>
    match i.check config kinds with
    | .error e => .error (0, e)
    | .ok kinds => (checkAll config code kinds).mapError fun (n, e) => (n + 1, e)

theorem checkAll_cons_eq_ok {config : Config} {i : Instruction} {code : List Instruction}
    {kinds last : List Kind} (h : checkAll config (i :: code) kinds = .ok last) :
    ∃ next, i.check config kinds = .ok next ∧ checkAll config code next = .ok last := by
  rw [checkAll] at h
  cases hcheck : i.check config kinds with
  | error e =>
    rw [hcheck] at h
    contradiction
  | ok next =>
    simp only [hcheck] at h
    cases htail : checkAll config code next with
    | error refusal =>
      rw [htail] at h
      contradiction
    | ok last' =>
      rw [htail] at h
      cases h
      exact ⟨next, rfl, htail⟩

theorem checkAll_cons_eq_error {config : Config} {i : Instruction} {code : List Instruction}
    {kinds : List Kind} {n : Nat} {e : EvalError}
    (h : checkAll config (i :: code) kinds = .error (n, e)) :
    n = 0 ∧ i.check config kinds = .error e ∨
      ∃ next m, n = m + 1 ∧ i.check config kinds = .ok next ∧
        checkAll config code next = .error (m, e) := by
  rw [checkAll] at h
  cases hcheck : i.check config kinds with
  | error e' =>
    simp only [hcheck] at h
    cases h
    exact .inl ⟨rfl, rfl⟩
  | ok next =>
    simp only [hcheck] at h
    cases htail : checkAll config code next with
    | ok last =>
      rw [htail] at h
      contradiction
    | error refusal =>
      rw [htail] at h
      cases h
      exact .inr ⟨next, refusal.1, rfl, rfl, htail⟩

/-- An instruction fails for the data it meets on a well-formed stack: its lookup fails, the name is not
bound, or the value is of the wrong class. -/
inductive DataError (config : Config) (ns : Namespace σ) :
    Instruction → List Operand → σ → EvalError → Prop
  | lookup {text : String} {rest : List Operand} {s : σ} {e : EvalError}
      (fails : (ns.lookup text s).1 = .error e) :
      DataError config ns .lookup (.name text :: .space :: rest) s e
  | unbound {text : String} {rest : List Operand} {s : σ} (strict : config.unbound = .strict)
      (absent : (ns.lookup text s).1 = .ok none) :
      DataError config ns .lookup (.name text :: .space :: rest) s (.unboundVariable text)
  | cast {type : Descriptor} {v : Value} {rest : List Operand} {s : σ}
      (accessible : type.isAccessible = true) (refused : type.accepts v = false) :
      DataError config ns (.cast type) (.value (some v) :: rest) s (.classCast type v.runtimeType.name)

/-- Code executed on a stack fails for the data at the instruction with so many before it. -/
inductive RaisesAt (config : Config) (ns : Namespace σ) (context : TypedValue) :
    List Instruction → List Operand → σ → Nat → EvalError → Prop
  | here {i : Instruction} {code : List Instruction} {stack : List Operand} {s : σ} {e : EvalError}
      (data : DataError config ns i stack s e) :
      RaisesAt config ns context (i :: code) stack s 0 e
  | later {i : Instruction} {code : List Instruction} {stack stack' : List Operand} {s s' : σ} {n : Nat}
      {e : EvalError} (step : execute config ns context i stack s = (.ok stack', s'))
      (raises : RaisesAt config ns context code stack' s' n e) :
      RaisesAt config ns context (i :: code) stack s (n + 1) e

variable {config : Config} {ns : Namespace σ} {context : TypedValue}

theorem executeAll_cons_of_ok {i : Instruction} {code : List Instruction} {stack stack' : List Operand}
    {s s' : σ} (step : execute config ns context i stack s = (.ok stack', s')) :
    executeAll config ns context (i :: code) stack s = executeAll config ns context code stack' s' := by
  rw [executeAll, step]

theorem DataError.execute {i : Instruction} {stack : List Operand} {s : σ} {e : EvalError}
    (h : DataError config ns i stack s e) : (execute config ns context i stack s).1 = .error e := by
  cases h with
  | @lookup text rest _ _ fails =>
    simp only [Instruction.execute]
    rcases hlookup : ns.lookup text s with ⟨found, s'⟩
    rw [hlookup] at fails
    cases fails
    rfl
  | @unbound text rest _ strict absent =>
    simp only [Instruction.execute, strict]
    rcases hlookup : ns.lookup text s with ⟨found, s'⟩
    rw [hlookup] at absent
    cases absent
    rfl
  | cast accessible refused =>
    simp only [Instruction.execute, Descriptor.checkCast_of_isAccessible accessible, Descriptor.pass,
      refused]
    rfl

theorem RaisesAt.executeAll {code : List Instruction} {stack : List Operand} {s : σ} {n : Nat}
    {e : EvalError} (h : RaisesAt config ns context code stack s n e) :
    (executeAll config ns context code stack s).1 = .error e := by
  induction h with
  | @here i code stack s e data =>
    have hdata : (Instruction.execute config ns context i stack s).1 = .error e := data.execute
    rw [Instruction.executeAll]
    rcases hstep : Instruction.execute config ns context i stack s with ⟨e' | _, s'⟩
    · rw [hstep] at hdata
      exact hdata
    · rw [hstep] at hdata
      contradiction
  | later step raises ih => rw [executeAll_cons_of_ok step, ih]

theorem RaisesAt.lt_length {code : List Instruction} {stack : List Operand} {s : σ} {n : Nat}
    {e : EvalError} (h : RaisesAt config ns context code stack s n e) : n < code.length := by
  induction h with
  | here data => exact Nat.succ_pos _
  | later step raises ih => exact Nat.succ_lt_succ ih

theorem lookup_cases (config : Config) (ns : Namespace σ) (context : TypedValue) (stack : List Operand)
    (s : σ) :
    (∃ text rest, stack = .name text :: .space :: rest) ∨
      check config .lookup (stack.map Operand.kind) = .error .stackUnderflow ∧
        execute config ns context .lookup stack s = (.error .stackUnderflow, s) := by
  rcases stack with _ | ⟨_ | _ | text, _ | ⟨_ | _ | _, rest⟩⟩
  case cons.name.cons.space => exact .inl ⟨text, rest, rfl⟩
  all_goals exact .inr ⟨rfl, rfl⟩

theorem cast_cases (config : Config) (ns : Namespace σ) (context : TypedValue) (type : Descriptor)
    (stack : List Operand) (s : σ) :
    (∃ v rest, stack = .value v :: rest) ∨
      check config (.cast type) (stack.map Operand.kind) = .error .stackUnderflow ∧
        execute config ns context (.cast type) stack s = (.error .stackUnderflow, s) := by
  rcases stack with _ | ⟨v | _ | _, rest⟩
  case cons.value => exact .inl ⟨v, rest, rfl⟩
  all_goals exact .inr ⟨rfl, rfl⟩

theorem execute_of_check_error {i : Instruction} {stack : List Operand} {e : EvalError}
    (h : i.check config (stack.map Operand.kind) = .error e) (s : σ) :
    execute config ns context i stack s = (.error e, s) := by
  cases i with
  | load slot =>
    simp only [check] at h
    simp only [execute]
    split at h
    · contradiction
    · split at h
      · contradiction
      · cases h
        simp [*]
  | push text => contradiction
  | lookup =>
    rcases lookup_cases config ns context stack s with ⟨text, rest, rfl⟩ | ⟨hcheck, hexecute⟩
    · contradiction
    · rw [hcheck] at h
      cases h
      exact hexecute
  | cast type =>
    rcases cast_cases config ns context type stack s with ⟨v, rest, rfl⟩ | ⟨hcheck, hexecute⟩
    · rw [List.map_cons, Operand.kind, check_cast] at h
      rcases type.restricted_or_isAccessible with ⟨name, rfl⟩ | ⟨-, named⟩
      · cases h
        rfl
      · rw [named] at h
        contradiction
    · rw [hcheck] at h
      cases h
      exact hexecute

theorem execute_cast_of_isAccessible {type : Descriptor} (h : type.isAccessible = true)
    (v : Option Value) (rest : List Operand) (s : σ) :
    execute config ns context (.cast type) (.value v :: rest) s = (.ok (.value v :: rest), s) ∨
      ∃ e, DataError config ns (.cast type) (.value v :: rest) s e := by
  cases v with
  | none =>
    left
    simp only [execute, Descriptor.checkCast_of_isAccessible h]
    rfl
  | some v =>
    cases haccepts : type.accepts v with
    | true =>
      left
      simp only [execute, Descriptor.checkCast_of_isAccessible h, Descriptor.pass, haccepts]
      rfl
    | false => exact .inr ⟨_, .cast h haccepts⟩

theorem execute_of_check_ok {i : Instruction} {stack : List Operand} {kinds : List Kind}
    (h : i.check config (stack.map Operand.kind) = .ok kinds) (s : σ) :
    (∃ stack' s', execute config ns context i stack s = (.ok stack', s') ∧
        stack'.map Operand.kind = kinds) ∨
      ∃ e, DataError config ns i stack s e := by
  cases i with
  | load slot =>
    left
    simp only [check] at h
    simp only [execute]
    split at h
    · next hcontext =>
      cases h
      exact ⟨.value context.value :: stack, s, if_pos hcontext, rfl⟩
    · next hcontext =>
      split at h
      · next hspace =>
        cases h
        exact ⟨.space :: stack, s, by rw [if_neg hcontext, if_pos hspace], rfl⟩
      · contradiction
  | push text =>
    cases h
    exact .inl ⟨.name text :: stack, s, rfl, rfl⟩
  | lookup =>
    rcases lookup_cases config ns context stack s with ⟨text, rest, rfl⟩ | ⟨hcheck, -⟩
    · cases h
      simp only [execute]
      rcases hlookup : ns.lookup text s with ⟨e | _ | t, s'⟩
      · exact .inr ⟨e, .lookup (congrArg Prod.fst hlookup)⟩
      · cases hpolicy : config.unbound with
        | lenient => exact .inl ⟨.value none :: rest, s', rfl, rfl⟩
        | strict => exact .inr ⟨_, .unbound hpolicy (congrArg Prod.fst hlookup)⟩
      · exact .inl ⟨.value t.value :: rest, s', rfl, rfl⟩
    · rw [hcheck] at h
      contradiction
  | cast type =>
    rcases cast_cases config ns context type stack s with ⟨v, rest, rfl⟩ | ⟨hcheck, -⟩
    · rw [List.map_cons, Operand.kind, check_cast] at h
      rcases type.restricted_or_isAccessible with ⟨name, rfl⟩ | ⟨accessible, named⟩
      · contradiction
      · rw [named] at h
        cases h
        rcases execute_cast_of_isAccessible accessible v rest s with passes | data
        · exact .inl ⟨_, _, passes, rfl⟩
        · exact .inr data
    · rw [hcheck] at h
      contradiction

theorem executeAll_of_checkAll_ok {code : List Instruction} {stack : List Operand} {kinds : List Kind}
    (h : checkAll config code (stack.map Operand.kind) = .ok kinds) (s : σ) :
    (∃ stack' s', executeAll config ns context code stack s = (.ok stack', s') ∧
        stack'.map Operand.kind = kinds) ∨
      ∃ n e, RaisesAt config ns context code stack s n e := by
  induction code generalizing stack s with
  | nil => exact .inl ⟨stack, s, rfl, Except.ok.inj h⟩
  | cons i code ih =>
    obtain ⟨next, hcheck, htail⟩ := checkAll_cons_eq_ok h
    rcases execute_of_check_ok hcheck s with ⟨stack', s', step, rfl⟩ | ⟨e, data⟩
    · rw [executeAll_cons_of_ok step]
      rcases ih htail s' with run | ⟨n, e, raises⟩
      · exact .inl run
      · exact .inr ⟨n + 1, e, .later step raises⟩
    · exact .inr ⟨0, e, .here data⟩

theorem executeAll_of_checkAll_error {code : List Instruction} {stack : List Operand} {n : Nat}
    {e : EvalError} (h : checkAll config code (stack.map Operand.kind) = .error (n, e)) (s : σ) :
    (executeAll config ns context code stack s).1 = .error e ∨
      ∃ m < n, ∃ e', RaisesAt config ns context code stack s m e' := by
  induction code generalizing stack s n with
  | nil => contradiction
  | cons i code ih =>
    rcases checkAll_cons_eq_error h with ⟨rfl, hcheck⟩ | ⟨next, m, rfl, hcheck, htail⟩
    · -- The run has come to the instruction that the check refuses.
      left
      rw [executeAll, execute_of_check_error hcheck]
    · rcases execute_of_check_ok hcheck s with ⟨stack', s', step, rfl⟩ | ⟨e', data⟩
      · rw [executeAll_cons_of_ok step]
        rcases ih htail s' with run | ⟨k, hk, e', raises⟩
        · exact .inl run
        · exact .inr ⟨k + 1, Nat.succ_lt_succ hk, e', .later step raises⟩
      · exact .inr ⟨0, Nat.succ_pos m, e', .here data⟩

end Instruction

namespace Program

open Instruction (RaisesAt)

def check (p : Program) : Except (Nat × EvalError) Unit :=
  match Instruction.checkAll p.config p.code [] with
  | .error refusal => .error refusal
  | .ok [.value] => .ok ()
  | .ok kinds => .error (p.code.length, .stackImbalance kinds.length)

theorem check_cases (p : Program) :
    (Instruction.checkAll p.config p.code [] = .ok [.value] ∧ p.check = .ok ()) ∨
      (∃ kinds, kinds ≠ [.value] ∧ Instruction.checkAll p.config p.code [] = .ok kinds ∧
        p.check = .error (p.code.length, .stackImbalance kinds.length)) ∨
      ∃ refusal, Instruction.checkAll p.config p.code [] = .error refusal ∧
        p.check = .error refusal := by
  unfold check
  split
  · next refusal h => exact .inr (.inr ⟨refusal, h, rfl⟩)
  · next h => exact .inl ⟨h, rfl⟩
  · next kinds hkinds h => exact .inr (.inl ⟨kinds, hkinds, h, rfl⟩)

variable {ns : Namespace σ} {context : TypedValue}

theorem run_fst {p : Program} (distinct : p.config.contextSlot ≠ p.config.namespaceSlot) (s : σ) :
    (p.run ns context s).1 =
      (Instruction.executeAll p.config ns context p.code [] s).1.bind (result p.exit) := by
  rw [run, checkSlots_eq_ok distinct]
  rcases Instruction.executeAll p.config ns context p.code [] s with ⟨e | stack, s'⟩ <;> rfl

theorem run_of_raisesAt {p : Program} (distinct : p.config.contextSlot ≠ p.config.namespaceSlot) {s : σ}
    {n : Nat} {e : EvalError} (h : RaisesAt p.config ns context p.code [] s n e) :
    (p.run ns context s).1 = .error e := by
  rw [run_fst distinct, h.executeAll]
  rfl

theorem run_of_checkAll_ok {p : Program} (distinct : p.config.contextSlot ≠ p.config.namespaceSlot)
    {kinds : List Operand.Kind} (h : Instruction.checkAll p.config p.code [] = .ok kinds) (s : σ) :
    (∃ stack, stack.map Operand.kind = kinds ∧ (p.run ns context s).1 = result p.exit stack) ∨
      ∃ n e, RaisesAt p.config ns context p.code [] s n e ∧ (p.run ns context s).1 = .error e := by
  have hcode : (∃ stack s', Instruction.executeAll p.config ns context p.code [] s = (.ok stack, s') ∧
      stack.map Operand.kind = kinds) ∨ ∃ n e, RaisesAt p.config ns context p.code [] s n e :=
    Instruction.executeAll_of_checkAll_ok h s
  rcases hcode with ⟨stack, s', hrun, hstack⟩ | ⟨n, e, raises⟩
  · exact .inl ⟨stack, hstack, by rw [run_fst distinct, hrun]; rfl⟩
  · exact .inr ⟨n, e, raises, run_of_raisesAt distinct raises⟩

theorem run_of_checkAll_error {p : Program}
    (distinct : p.config.contextSlot ≠ p.config.namespaceSlot) {n : Nat} {e : EvalError}
    (h : Instruction.checkAll p.config p.code [] = .error (n, e)) (s : σ) :
    (p.run ns context s).1 = .error e ∨
      ∃ m < n, ∃ e', RaisesAt p.config ns context p.code [] s m e' ∧
        (p.run ns context s).1 = .error e' := by
  have hcode : (Instruction.executeAll p.config ns context p.code [] s).1 = .error e ∨
      ∃ m < n, ∃ e', RaisesAt p.config ns context p.code [] s m e' :=
    Instruction.executeAll_of_checkAll_error h s
  rcases hcode with hrun | ⟨m, hm, e', raises⟩
  · left
    rw [run_fst distinct, hrun]
    rfl
  · exact .inr ⟨m, hm, e', raises, run_of_raisesAt distinct raises⟩

theorem result_of_kind_eq {exit : Descriptor} {stack : List Operand}
    (h : stack.map Operand.kind = [.value]) : ∃ v, result exit stack = .ok ⟨v, some exit⟩ := by
  match stack, h with
  | [.value v], _ => exact ⟨v, rfl⟩

theorem result_of_kind_ne {exit : Descriptor} {stack : List Operand}
    (h : stack.map Operand.kind ≠ [.value]) :
    result exit stack = .error (.stackImbalance stack.length) := by
  match stack, h with
  | [.value _], h => exact absurd rfl h
  | [], _ | [.space], _ | [.name _], _ => rfl
  | top :: _ :: _, _ => cases top <;> rfl

/-- Malformed programs are told from the kinds of the operands alone, up to failures for the data that
come first. -/
theorem run_of_check (p : Program) (distinct : p.config.contextSlot ≠ p.config.namespaceSlot)
    (ns : Namespace σ) (context : TypedValue) (s : σ) :
    (p.check = .ok () →
      (∃ v, (p.run ns context s).1 = .ok ⟨v, some p.exit⟩) ∨
        ∃ n e, RaisesAt p.config ns context p.code [] s n e ∧ (p.run ns context s).1 = .error e) ∧
      ∀ n e, p.check = .error (n, e) →
        (p.run ns context s).1 = .error e ∨
          ∃ m < n, ∃ e', RaisesAt p.config ns context p.code [] s m e' ∧
            (p.run ns context s).1 = .error e' := by
  rcases p.check_cases with ⟨hall, hcheck⟩ | ⟨kinds, hkinds, hall, hcheck⟩ | ⟨refusal, hall, hcheck⟩
  · rw [hcheck]
    refine ⟨fun _ => ?_, nofun⟩
    rcases run_of_checkAll_ok distinct hall s with ⟨stack, hstack, hrun⟩ | raises
    · rw [hrun]
      exact .inl (result_of_kind_eq hstack)
    · exact .inr raises
  · -- The operands left are counted behind the last instruction, and every one comes before.
    rw [hcheck]
    refine ⟨nofun, fun n e h => ?_⟩
    cases h
    rcases run_of_checkAll_ok distinct hall s with ⟨stack, rfl, hrun⟩ | ⟨n, e, raises, hrun⟩
    · rw [hrun, List.length_map]
      exact .inl (result_of_kind_ne hkinds)
    · exact .inr ⟨n, raises.lt_length, e, raises, hrun⟩
  · rw [hcheck]
    refine ⟨nofun, fun n e h => ?_⟩
    cases h
    exact run_of_checkAll_error distinct hall s

theorem run_of_check_restricted :
    -- The second cast fails even for null, which the first one lets through.
    let code : List Instruction := [.load 2, .push "x", .lookup, .cast .int]
    let sound : Program := ⟨"#x", code, .int, {}⟩
    let faulty : Program := ⟨"#x", code ++ [.cast (.object ⟨"Vault", .restricted⟩)], .int, {}⟩
    let bound : Store := .ofList [("x", .ofValue (.string "one"))] false
    sound.check = .ok () ∧ (sound.run .standard .null {}).1 = .ok ⟨none, some .int⟩ ∧
      faulty.check = .error (4, .illegalAccess "Vault") ∧
      (faulty.run .standard .null {}).1 = .error (.illegalAccess "Vault") ∧
      ∃ m < 4, RaisesAt faulty.config .standard .null faulty.code [] bound m (.classCast .int "string") := by
  intro code sound faulty bound
  have hbound : (faulty.run .standard .null bound).1 = .error (.classCast .int "string") := rfl
  refine ⟨rfl, rfl, rfl, rfl, ?_⟩
  rcases (run_of_check faulty (by decide) .standard .null bound).2 4 _ rfl with
    hrun | ⟨m, hm, e, raises, hrun⟩
  · rw [hbound] at hrun
    cases Except.error.inj hrun
  · rw [hbound] at hrun
    exact ⟨m, hm, Except.error.inj hrun ▸ raises⟩

end Program
end Sigil
