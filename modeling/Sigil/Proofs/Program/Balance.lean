import Sigil.Node
import Sigil.Proofs.Reference.Code

/-! The balance of types that a node leaves. A node may emit any instructions and push and pop types in any
order, and popping nothing has no effect. What is left in the end are the types behind whose push no more
is popped than pushed; a program is made exactly if this is one type. -/

namespace Sigil

namespace Emission

inductive Step where
  | emit (i : Instruction)
  | push (type : Descriptor)
  | pop
  deriving DecidableEq

namespace Step

def apply (em : Emission) : Step → Emission
  | .emit i => em.emit i
  | .push type => em.pushType type
  | .pop => em.popType

def instruction? : Step → Option Instruction
  | .emit i => some i
  | _ => none

def isPush : Step → Bool
  | .push _ => true
  | _ => false

def pushed (steps : List Step) : Nat := steps.countP isPush

def popped (steps : List Step) : Nat := steps.count .pop

/-- The steps take nothing that was pushed before them: up to no point do they pop more than they push. -/
def Spares (steps : List Step) : Prop := ∀ first, first <+: steps → popped first ≤ pushed first

def taken : List Step → Nat
  | [] => 0
  | .emit _ :: later => taken later
  | .push _ :: later => taken later - 1
  | .pop :: later => taken later + 1

theorem forall_prefix_cons_iff (step : Step) (later : List Step) (n : Nat) :
    (∀ first, first <+: step :: later → popped first ≤ pushed first + n) ↔
      ∀ first, first <+: later → popped (step :: first) ≤ pushed (step :: first) + n := by
  refine ⟨fun h first hlater => h _ (List.cons_prefix_cons.2 ⟨rfl, hlater⟩), fun h first hsteps => ?_⟩
  rcases List.prefix_cons_iff.1 hsteps with rfl | ⟨first, rfl, hlater⟩
  · exact Nat.zero_le _
  · exact h first hlater

theorem taken_le_iff (steps : List Step) (n : Nat) :
    taken steps ≤ n ↔ ∀ first, first <+: steps → popped first ≤ pushed first + n := by
  induction steps generalizing n with
  | nil => simp [taken, popped, pushed]
  | cons step later ih =>
    rw [forall_prefix_cons_iff]
    cases step with
    | emit i => simpa [taken, popped, pushed, isPush] using ih n
    | push type =>
      have hpushed (first : List Step) : pushed (.push type :: first) + n = pushed first + (n + 1) := by
        rw [pushed, List.countP_cons_of_pos (by rfl), Nat.add_assoc, Nat.add_comm 1]
        rfl
      have hpopped (first : List Step) : popped (.push type :: first) = popped first := by
        simp [popped]
      simp only [taken, Nat.sub_le_iff_le_add, ih, hpushed, hpopped]
    | pop =>
      have hpushed (first : List Step) : pushed (.pop :: first) = pushed first := by
        simp [pushed, isPush]
      have hpopped (first : List Step) : popped (.pop :: first) = popped first + 1 := by
        simp [popped]
      simp only [taken, hpushed, hpopped]
      cases n with
      | zero =>
        -- The pop by itself is more than was pushed.
        refine iff_of_false (Nat.not_succ_le_zero _) fun h => ?_
        exact absurd (h [] List.nil_prefix) (by decide)
      | succ n => simpa only [← Nat.add_assoc, Nat.add_le_add_iff_right] using ih n

theorem spares_iff {steps : List Step} : Spares steps ↔ taken steps = 0 :=
  (taken_le_iff steps 0).symm.trans Nat.le_zero

instance (steps : List Step) : Decidable (Spares steps) := decidable_of_iff _ spares_iff.symm

def emitted (steps : List Step) : List Instruction := steps.filterMap instruction?

/-- The types that are pushed and not taken later on, the earliest first. -/
def left : List Step → List Descriptor
  | [] => []
  | .push type :: later => if Spares later then type :: left later else left later
  | _ :: later => left later

end Step

variable (em : Emission) (steps : List Step)

def after : Emission := steps.foldl Step.apply em

theorem code_after : (em.after steps).code = em.code ++ Step.emitted steps := by
  induction steps generalizing em with
  | nil => simp [after, Step.emitted]
  | cons step later ih =>
    rw [after, List.foldl_cons, ← after, ih]
    cases step with
    | emit i => simp [Step.emitted, Step.apply, Step.instruction?, emit]
    | push type => rfl
    | pop => rfl

theorem leaves_after :
    (em.after steps).leaves = (Step.left steps).reverse ++ em.leaves.drop (Step.taken steps) := by
  induction steps generalizing em with
  | nil => rfl
  | cons step later ih =>
    rw [after, List.foldl_cons, ← after, ih]
    cases step with
    | emit i => rfl
    | push type =>
      simp only [Step.left, Step.taken, Step.apply, pushType, Step.spares_iff]
      cases Step.taken later with
      | zero => simp
      | succ n => simp
    | pop => simp [Step.left, Step.taken, Step.apply, popType]

-- The first pop finds nothing, and the third finds nothing any more.
example : Step.left [.pop, .push .int, .pop, .pop, .push .string, .emit .lookup, .push .bool, .pop] =
    [.string] := by decide

end Emission

open Emission (Step)

def CodeSource.ofSteps (display : String) (compilable : Bool)
    (plan : Emission → List Step × Except EvalError Unit) : CodeSource where
  display := display
  compilable := compilable
  generate em := ((plan em).2, em.after (plan em).1)

namespace HostNode

def stepsOf : Instruction → List Step
  | .cast type => if type.isAny then [] else [.emit (.cast type)]
  | i => [.emit i]

theorem after_stepsOf (em : Emission) (i : Instruction) : em.after (stepsOf i) = emitInstruction em i := by
  cases i with
  | cast type =>
    simp only [stepsOf, emitInstruction, Emission.emitCast]
    split <;> rfl
  | _ => rfl

theorem popTypes_eq_after (n : Nat) (em : Emission) : popTypes n em = em.after (.replicate n .pop) := by
  induction n generalizing em with
  | zero => rfl
  | succ n ih => exact ih em.popType

def steps (h : HostNode) : List Step :=
  h.code.flatMap stepsOf ++ (h.leaves.map .push ++ .replicate h.pops .pop)

theorem generate_eq_after (h : HostNode) (em : Emission) : h.generate em = (.ok (), em.after h.steps) := by
  have hcode : h.code.foldl emitInstruction em = em.after (h.code.flatMap stepsOf) := by
    rw [Emission.after, List.foldl_flatMap]
    exact congrArg (fun f => h.code.foldl f em)
      (funext fun em => funext fun i => (after_stepsOf em i).symm)
  rw [generate, hcode, popTypes_eq_after]
  simp only [Emission.after, steps, List.foldl_append, List.foldl_map]
  rfl

end HostNode

namespace Reference

def steps (r : Reference) (em : Emission) : List Step × Except EvalError Unit :=
  match r.exit with
  | none => ([], .error (.notCompilable r.display))
  | some exit =>
    ((r.name.code em.contextSlot em.namespaceSlot ++ exit.castCode).map .emit ++ [.push exit], .ok ())

theorem generate_eq_after (r : Reference) (em : Emission) :
    r.generate em = ((r.steps em).2, em.after (r.steps em).1) := by
  have hcode (code : List Instruction) (em : Emission) :
      (code.map Step.emit).foldl Step.apply em = { em with code := em.code ++ code } := by
    induction code generalizing em with
    | nil => simp
    | cons i code ih => simp [ih, Step.apply, Emission.emit]
  unfold steps
  cases hexit : r.exit with
  | none =>
    rw [generate, hexit]
    rfl
  | some exit =>
    rw [generate_eq hexit]
    simp only [Emission.after, List.foldl_append, hcode]
    rfl

end Reference

theorem Node.exists_codeSource_eq_ofSteps (n : Node) :
    ∃ plan, n.codeSource = .ofSteps n.display n.isCompilable plan := by
  cases n with
  | reference r => exact ⟨r.steps, congrArg (CodeSource.mk _ _ _) (funext r.generate_eq_after)⟩
  | host h =>
    exact ⟨fun _ => (h.steps, .ok ()), congrArg (CodeSource.mk _ _ _) (funext h.generate_eq_after)⟩

namespace Program

theorem ofEmission_of_leaves (source : String) (config : Config) (em : Emission)
    (types : List Descriptor) :
    em.leaves = types.reverse →
      ofEmission source config em =
        match types with
        | [exit] => .ok ⟨source, em.code, exit, config⟩
        | types => .error (.stackImbalance types.length) := by
  intro h
  rcases types with _ | ⟨first, _ | ⟨second, rest⟩⟩
  · simp [ofEmission, Emission.lastType, h]
  · simp [ofEmission, Emission.lastType, Emission.popType, Emission.depth, h]
  · have hdepth : em.popType.depth = rest.length + 1 := by
      simp [Emission.popType, Emission.depth, h]
    obtain ⟨exit, hlast⟩ : ∃ exit, em.lastType = some exit := by
      rw [Emission.lastType, h, List.head?_reverse]
      exact ⟨_, List.getLast?_eq_some_getLast (List.cons_ne_nil _ _)⟩
    simp only [ofEmission, hlast, hdepth, List.length_cons]
    rfl

theorem compile_withAst (node : CodeSource) (config : Config) (ast : String) :
    compile { node with ast := ast } config =
      (compile node config).map fun p => { p with source := ast } := by
  unfold compile
  split
  · rfl
  · split
    · rcases node.generate (.start config) with ⟨e | _, em⟩
      · rfl
      · simp only [ofEmission]
        split
        · rfl
        · split <;> rfl
    · rfl

end Program
end Sigil
