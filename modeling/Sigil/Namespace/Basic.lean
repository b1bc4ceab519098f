import Sigil.EvalError
import Sigil.Value.Basic

/-!
Namespaces: what the lookup and the assignment of named variables go to. A namespace is any three
operations over a store of its own; what they did to the store stays done when they fail.

The right side of an assignment is a computation of the caller, which may itself read and write the
namespace. The namespace decides whether it is run: it settles an assignment at once, or waits for
the outcome of the computation, which is then run one time, and finishes from there.
-/

namespace Sigil

/-- A computation on a world that may fail and leaves a world in either case. -/
abbrev Attempt (ω α : Type) := ω → Except EvalError α × ω

inductive Assignment (σ : Type) where
  | settled (result : Except EvalError TypedValue) (store : σ)
  -- the right side is run, and its outcome is what the assignment is finished with
  | awaiting (store : σ) (finish : Except EvalError TypedValue → Attempt σ TypedValue)

structure Namespace (σ : Type) where
  lookup : String → Attempt σ (Option TypedValue)
  assign : String → σ → Assignment σ
  set : String → Option Value → Attempt σ Unit

structure Part (ω σ : Type) where
  get : ω → σ
  put : σ → ω → ω

namespace Part

def whole {σ : Type} : Part σ σ := ⟨id, fun s _ => s⟩

def lift {ω σ α : Type} (part : Part ω σ) (f : Attempt σ α) : Attempt ω α := fun w =>
  let (r, s) := f (part.get w)
  (r, part.put s w)

end Part

namespace Namespace

variable {σ ω : Type}

/-- Carries out an assignment in a world that holds the store: the right side runs there if the
namespace waits for it. -/
def assignIn (ns : Namespace σ) (part : Part ω σ) (name : String) (producer : Attempt ω TypedValue) :
    Attempt ω TypedValue := fun w =>
  match ns.assign name (part.get w) with
  | .settled result s => (result, part.put s w)
  | .awaiting s finish =>
    let (produced, w) := producer (part.put s w)
    part.lift (finish produced) w

def refusing (ns : Namespace σ) : Namespace σ :=
  { ns with
    assign := fun name s =>
      .settled (.error (.namespaceFailure ("assignment to `" ++ name ++ "` refused"))) s }

def offline : Namespace σ where
  lookup name s := (.error (.namespaceFailure ("store offline while resolving `" ++ name ++ "`")), s)
  assign name s := .settled (.error (writeFailure name)) s
  set name _ s := (.error (writeFailure name), s)
where
  writeFailure (name : String) : EvalError :=
    .namespaceFailure ("store offline while assigning `" ++ name ++ "`")

end Namespace
end Sigil
