import Mathlib.Logic.Function.Basic
import Sigil.Place
import Sigil.Program.Run
import Sigil.Reference.Emission
import Sigil.Reference.Evaluation

/-! Clients: anything that may be done, in any order, with some references over some namespaces, each
namespace with a store of its own. What a client does next may depend on every answer so far, and the right
side of an assignment is a client again. The log of a run holds what was asked and what was answered. -/

namespace Sigil.Client

variable {ν ι : Type} {σ : ι → Type}

inductive Operation (ν : Type) (ι : Type) where
  | evaluate (node : ν) (space : ι) (st : State)
  | takePlace (node : ν) (space : ι) (st : State)
  | describe (node : ν)
  | generate (node : ν) (em : Emission)
  | compile (node : ν) (config : Config)
  | run (p : Program) (space : ι) (context : TypedValue)
  | read (p : Place)
  | write (p : Place) (space : ι) (v : Option Value)
  | set (space : ι) (name : String) (v : Option Value)
  | lookup (space : ι) (name : String)
  | value (space : ι) (st : State) (name : String)
  | view (space : ι)

@[reducible] def Operation.Answer (σ : ι → Type) : Operation ν ι → Type
  | .evaluate _ _ _ | .run _ _ _ | .value _ _ _ => Except EvalError TypedValue
  | .takePlace _ _ _ => Except EvalError Place
  | .describe _ => ExitSignature
  | .generate _ _ => Except EvalError Unit × Emission
  | .compile _ _ => Except EvalError Program
  | .read _ => TypedValue
  | .write _ _ _ | .set _ _ _ => Except EvalError Unit
  | .lookup _ _ => Except EvalError (Option TypedValue)
  | .view space => σ space

inductive Target (ν : Type) (ι : Type) where
  | node (node : ν) (space : ι)
  | name (space : ι) (text : String)

inductive Event (ν : Type) (σ : ι → Type) where
  | performed (op : Operation ν ι) (answer : op.Answer σ)
  | assigned (target : Target ν ι) (yielded : Option (Except EvalError TypedValue))
      (outcome : Except EvalError TypedValue)

def Throughout (good : List (Event ν σ) → Event ν σ → Prop) (log : List (Event ν σ)) : Prop :=
  ∀ before e, e :: before <:+ log → good before e

theorem Throughout.nil {good : List (Event ν σ) → Event ν σ → Prop} : Throughout good [] :=
  fun _ _ h => absurd (List.suffix_nil.1 h) (List.cons_ne_nil _ _)

theorem Throughout.cons {good : List (Event ν σ) → Event ν σ → Prop} {e : Event ν σ}
    {log : List (Event ν σ)} (h : Throughout good log) (he : good log e) :
    Throughout good (e :: log) := by
  intro before e' hsuffix
  rcases List.suffix_cons_iff.1 hsuffix with heq | hsuffix
  · cases heq
    exact he
  · exact h before e' hsuffix

structure World (ν : Type) (σ : ι → Type) where
  nodes : ν → Reference
  stores : ∀ i, σ i
  yielded : Option (Except EvalError TypedValue) := none
  log : List (Event ν σ) := []

inductive Script (ν : Type) (σ : ι → Type) where
  | done (outcome : Except EvalError TypedValue)
  | perform (op : Operation ν ι) (next : op.Answer σ → Script ν σ)
  | assign (target : Target ν ι) (right : Script ν σ)
      (next : Except EvalError TypedValue → Script ν σ)

namespace World

variable [DecidableEq ν] [DecidableEq ι]

def withNode (w : World ν σ) (n : ν) (r : Reference) : World ν σ :=
  { w with nodes := Function.update w.nodes n r }

def withStore (w : World ν σ) (i : ι) (s : σ i) : World ν σ :=
  { w with stores := Function.update w.stores i s }

def withYielded (w : World ν σ) (y : Option (Except EvalError TypedValue)) : World ν σ :=
  { w with yielded := y }

def note (w : World ν σ) (e : Event ν σ) : World ν σ := { w with log := e :: w.log }

def storePart (i : ι) : Part (World ν σ) (σ i) := ⟨fun w => w.stores i, fun s w => w.withStore i s⟩

def act (spaces : ∀ i, Namespace (σ i)) :
    (op : Operation ν ι) → World ν σ → op.Answer σ × World ν σ
  | .evaluate n i st, w =>
    let e := (w.nodes n).evaluate (spaces i) st (w.stores i)
    (e.outcome, (w.withNode n e.reference).withStore i e.store)
  | .takePlace n i st, w => (storePart i).lift ((w.nodes n).place (spaces i) st) w
  | .describe n, w => ((w.nodes n).exit, w)
  | .generate n em, w => ((w.nodes n).generate em, w)
  | .compile n config, w => (Program.compile (w.nodes n).codeSource config, w)
  | .run p i context, w => (storePart i).lift (p.run (spaces i) context) w
  | .read p, w => (p.read, w)
  | .write p i v, w => (storePart i).lift (p.write (spaces i) v) w
  | .set i name v, w => (storePart i).lift ((spaces i).set name v) w
  | .lookup i name, w => (storePart i).lift ((spaces i).lookup name) w
  | .value i st name, w => (storePart i).lift (st.lookup (spaces i) name) w
  | .view i, w => (w.stores i, w)

def perform (spaces : ∀ i, Namespace (σ i)) (op : Operation ν ι) (w : World ν σ) :
    op.Answer σ × World ν σ :=
  let (a, w) := w.act spaces op
  (a, w.note (.performed op a))

def yielding (right : Attempt (World ν σ) TypedValue) : Attempt (World ν σ) TypedValue := fun w =>
  let (r, w) := right w
  (r, w.withYielded (some r))

end World

namespace Target

def space : Target ν ι → ι
  | .node _ space => space
  | .name space _ => space

def text? (nodes : ν → Reference) : Target ν ι → Option String
  | .node n _ =>
    match (nodes n).name with
    | .named text _ => some text
    | _ => none
  | .name _ text => some text

def refusal (nodes : ν → Reference) : Target ν ι → EvalError
  | .node n _ => .unsupportedAssignment (nodes n).name.text
  | .name _ text => .unsupportedAssignment text

theorem text?_congr {nodes nodes' : ν → Reference} (h : ∀ n, (nodes n).ident = (nodes' n).ident)
    (target : Target ν ι) : target.text? nodes = target.text? nodes' := by
  cases target with
  | node n i => simp only [text?, Reference.name, h n]
  | name i text => rfl

theorem refusal_congr {nodes nodes' : ν → Reference} (h : ∀ n, (nodes n).ident = (nodes' n).ident)
    (target : Target ν ι) : target.refusal nodes = target.refusal nodes' := by
  cases target with
  | node n i => simp only [refusal, Reference.name, h n]
  | name i text => rfl

variable [DecidableEq ι]

def assign (spaces : ∀ i, Namespace (σ i)) (right : Attempt (World ν σ) TypedValue) :
    Target ν ι → Attempt (World ν σ) TypedValue
  | .node n i, w => (w.nodes n).assign (spaces i) (World.storePart i) right w
  | .name i text, w => (spaces i).assignIn (World.storePart i) text right w

theorem assign_of_text {target : Target ν ι} {w : World ν σ} {text : String}
    (h : target.text? w.nodes = some text) (spaces : ∀ i, Namespace (σ i))
    (right : Attempt (World ν σ) TypedValue) :
    target.assign spaces right w =
      (spaces target.space).assignIn (World.storePart target.space) text right w := by
  cases target with
  | name i text' => rw [← Option.some.inj h]; rfl
  | node n i =>
    simp only [text?] at h
    split at h
    · next text' free hname =>
      rw [← Option.some.inj h]
      exact congrFun (Reference.assign_named hname (spaces i) (World.storePart i) right) w
    · contradiction

theorem assign_reserved {target : Target ν ι} {w : World ν σ} (h : target.text? w.nodes = none)
    (spaces : ∀ i, Namespace (σ i)) (right : Attempt (World ν σ) TypedValue) :
    target.assign spaces right w = (.error (target.refusal w.nodes), w) := by
  cases target with
  | name i text => contradiction
  | node n i =>
    refine Reference.assign_reserved ?_ (spaces i) (World.storePart i) right w
    simp only [text?] at h
    split at h
    · contradiction
    · next hreserved =>
      cases hname : (w.nodes n).name with
      | named text free => exact absurd hname (hreserved text free)
      | _ => simp [Reference.isWritable, hname, VariableName.isReserved]

end Target

namespace World

variable [DecidableEq ι]

def assign (spaces : ∀ i, Namespace (σ i)) (target : Target ν ι)
    (right : Attempt (World ν σ) TypedValue) (w : World ν σ) :
    Except EvalError TypedValue × World ν σ :=
  let (r, w) := target.assign spaces (yielding right) (w.withYielded none)
  (r, w.note (.assigned target w.yielded r))

variable {spaces : ∀ i, Namespace (σ i)} {target : Target ν ι} {w : World ν σ}

theorem assign_reserved (h : target.text? w.nodes = none)
    (right : Attempt (World ν σ) TypedValue) :
    assign spaces target right w = (.error (target.refusal w.nodes),
      (w.withYielded none).note (.assigned target none (.error (target.refusal w.nodes)))) := by
  have hreserved : target.assign spaces (yielding right) (w.withYielded none) =
      (.error (target.refusal w.nodes), w.withYielded none) :=
    Target.assign_reserved (w := w.withYielded none) h ..
  rw [assign, hreserved]
  rfl

theorem assign_settled {text : String} (h : target.text? w.nodes = some text)
    {r : Except EvalError TypedValue} {s : σ target.space}
    (settled : (spaces target.space).assign text (w.stores target.space) = .settled r s)
    (right : Attempt (World ν σ) TypedValue) :
    assign spaces target right w =
      (r, ((w.withYielded none).withStore target.space s).note (.assigned target none r)) := by
  have hassign : target.assign spaces (yielding right) (w.withYielded none) =
      (r, (w.withYielded none).withStore target.space s) := by
    rw [Target.assign_of_text (by exact h)]
    simp only [Namespace.assignIn, storePart, withYielded, settled]
  rw [assign, hassign]
  rfl

theorem assign_awaiting {text : String} (h : target.text? w.nodes = some text) {s : σ target.space}
    {finish : Except EvalError TypedValue → Attempt (σ target.space) TypedValue}
    (awaiting : (spaces target.space).assign text (w.stores target.space) = .awaiting s finish)
    (right : Attempt (World ν σ) TypedValue) :
    assign spaces target right w =
      let (produced, w) := right ((w.withYielded none).withStore target.space s)
      let (r, s) := finish produced (w.stores target.space)
      (r, ((w.withYielded (some produced)).withStore target.space s).note
        (.assigned target (some produced) r)) := by
  have hassign : target.assign spaces (yielding right) (w.withYielded none) =
      let (produced, w) := right ((w.withYielded none).withStore target.space s)
      let (r, s) := finish produced (w.stores target.space)
      (r, (w.withYielded (some produced)).withStore target.space s) := by
    rw [Target.assign_of_text (by exact h)]
    simp only [Namespace.assignIn, storePart, withYielded, awaiting, yielding, Part.lift]
  rw [assign, hassign]
  rfl

end World

namespace Script

variable [DecidableEq ν] [DecidableEq ι]

def run (spaces : ∀ i, Namespace (σ i)) : Script ν σ → Attempt (World ν σ) TypedValue
  | .done outcome, w => (outcome, w)
  | .perform op next, w =>
    let (a, w) := w.perform spaces op
    run spaces (next a) w
  | .assign target right next, w =>
    let (r, w) := World.assign spaces target (run spaces right) w
    run spaces (next r) w

/-- What every operation keeps, and every assignment whose right side keeps it, is kept by every run. -/
theorem run_invariant {spaces : ∀ i, Namespace (σ i)} {P : World ν σ → Prop}
    (perform : ∀ op w, P w → P (w.perform spaces op).2)
    (assign : ∀ target (right : Script ν σ), (∀ w, P w → P (right.run spaces w).2) →
      ∀ w, P w → P (World.assign spaces target (right.run spaces) w).2)
    (script : Script ν σ) {w : World ν σ} (h : P w) : P (script.run spaces w).2 := by
  induction script generalizing w with
  | done outcome => exact h
  | perform op next ih => exact ih _ (perform op w h)
  | assign target right next ihright ihnext =>
    exact ihnext _ (assign target right (fun w hw => ihright hw) w h)

end Script

end Sigil.Client
