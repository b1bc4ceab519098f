import Sigil.Namespace.Store
import Sigil.Program.Basic

/-!
Running compiled programs. A frame is a context object and a namespace; the operands on the stack
are values, the namespace handle and names. A program ends well when it leaves one value, which is
then declared to have the exit type.
-/

namespace Sigil

inductive Operand where
  | value (v : Option Value)
  | space
  | name (text : String)

def checkCast (type : Descriptor) (v : Option Value) : Except EvalError Unit :=
  match type, type.isAccessible with
  -- such a type must not be named, not even for null
  | .object o, false => .error (.illegalAccess o.name)
  | _, _ =>
    match v with
    | none => .ok ()
    | some v => if type.accepts v then .ok () else .error (.classCast type v.runtimeType.name)

namespace Instruction

variable {σ : Type}

def execute (config : Config) (ns : Namespace σ) (context : TypedValue) (i : Instruction)
    (stack : List Operand) : Attempt σ (List Operand) := fun s =>
  match i with
  | .load slot =>
    if slot = config.contextSlot then (.ok (.value context.value :: stack), s)
    else if slot = config.namespaceSlot then (.ok (.space :: stack), s)
    else (.error (.invalidSlot slot), s)
  | .push text => (.ok (.name text :: stack), s)
  | .lookup =>
    match stack with
    | .name text :: .space :: rest =>
      match ns.lookup text s with
      | (.error e, s) => (.error e, s)
      | (.ok (some t), s) => (.ok (.value t.value :: rest), s)
      | (.ok none, s) =>
        -- the policy that the program was compiled under, whatever the state says by now
        match config.unbound with
        | .lenient => (.ok (.value none :: rest), s)
        | .strict => (.error (.unboundVariable text), s)
    | _ => (.error .stackUnderflow, s)
  | .cast type =>
    match stack with
    | .value v :: _ => ((checkCast type v).map fun () => stack, s)
    | _ => (.error .stackUnderflow, s)

def executeAll (config : Config) (ns : Namespace σ) (context : TypedValue) :
    List Instruction → List Operand → Attempt σ (List Operand)
  | [], stack, s => (.ok stack, s)
  | i :: code, stack, s =>
    match execute config ns context i stack s with
    | (.error e, s) => (.error e, s)
    | (.ok stack, s) => executeAll config ns context code stack s

theorem executeAll_append (config : Config) (ns : Namespace σ) (context : TypedValue)
    (p q : List Instruction) (stack : List Operand) (s : σ) :
    executeAll config ns context (p ++ q) stack s =
      match executeAll config ns context p stack s with
      | (.error e, s) => (.error e, s)
      | (.ok stack, s) => executeAll config ns context q stack s := by
  induction p generalizing stack s with
  | nil => rfl
  | cons i p ih =>
    simp only [List.cons_append, executeAll]
    split
    · rfl
    · exact ih ..

/-! Where lookups keep the store, as those of the standard namespace do, so does all that runs. -/

theorem execute_store {ns : Namespace σ} (kept : ∀ name s, (ns.lookup name s).2 = s) (config : Config)
    (context : TypedValue) (i : Instruction) (stack : List Operand) (s : σ) :
    (execute config ns context i stack s).2 = s := by
  unfold execute
  split
  · split
    · rfl
    · split <;> rfl
  · rfl
  · split
    · next text rest =>
      have hkept : (ns.lookup text s).2 = s := kept text s
      rcases hlookup : ns.lookup text s with ⟨e | _ | t, s'⟩ <;> rw [hlookup] at hkept
      · exact hkept
      · cases config.unbound <;> exact hkept
      · exact hkept
    · rfl
  · split <;> rfl

theorem executeAll_store {ns : Namespace σ} (kept : ∀ name s, (ns.lookup name s).2 = s)
    (config : Config) (context : TypedValue) (code : List Instruction) (stack : List Operand) (s : σ) :
    (executeAll config ns context code stack s).2 = s := by
  induction code generalizing stack s with
  | nil => rfl
  | cons i code ih =>
    have hfirst := execute_store kept config context i stack s
    rw [executeAll]
    split
    · next hexecute => rwa [hexecute] at hfirst
    · next stack s' hexecute =>
      have hs : s' = s := by rwa [hexecute] at hfirst
      rw [ih, hs]

end Instruction

namespace Program

variable {σ : Type}

def result (exit : Descriptor) : List Operand → Except EvalError TypedValue
  | [.value v] => .ok (.declaring v exit)
  | stack => .error (.stackImbalance stack.length)

def run (p : Program) (ns : Namespace σ) (context : TypedValue) : Attempt σ TypedValue := fun s =>
  match checkSlots p.config with
  | .error e => (.error e, s)
  | .ok () =>
    match Instruction.executeAll p.config ns context p.code [] s with
    | (.error e, s) => (.error e, s)
    | (.ok stack, s) => (result p.exit stack, s)

theorem run_standard_store (p : Program) (context : TypedValue) (s : Store) :
    (p.run .standard context s).2 = s := by
  have hcode : (Instruction.executeAll p.config .standard context p.code [] s).2 = s :=
    Instruction.executeAll_store (fun _ _ => rfl) p.config context p.code [] s
  unfold run
  split
  · rfl
  · split <;> next hexecute => rwa [hexecute] at hcode

end Program
end Sigil
