import Sigil.Session.Operation

/-! Scripts: anything that may be done with a session, each step chosen by the replies so far. The right side
of an assignment is a script again, which runs in the same session once the namespace asks for it. -/

namespace Sigil.Session

variable {σ : Type}

inductive Script where
  | done (outcome : Except EvalError TypedValue)
  | perform (op : Operation) (next : Reply → Script)
  | assign (node : String) (right : Script) (next : Except EvalError TypedValue → Script)

structure Transcript (σ : Type) where
  session : Session σ
  replies : List Reply := []  -- the latest first

namespace Transcript

def storePart : Part (Transcript σ) σ where
  get t := t.session.store
  put s t := { t with session := { t.session with store := s } }

def note (reply : Reply) (t : Transcript σ) : Transcript σ := { t with replies := reply :: t.replies }

def perform (ns : Namespace σ) (op : Operation) (t : Transcript σ) : Reply × Transcript σ :=
  let (reply, w) := step ns op t.session
  (reply, note reply { t with session := w })

def assign (ns : Namespace σ) (id : String) (right : Attempt (Transcript σ) TypedValue) :
    Attempt (Transcript σ) TypedValue := fun t =>
  let (r, t) : Except EvalError TypedValue × Transcript σ :=
    match t.session.nodes.find? id with
    | none => (.error (unknownNode id), t)
    | some n => n.assign ns storePart right t
  (r, t.note (.value r))

end Transcript

namespace Script

def run (ns : Namespace σ) : Script → Attempt (Transcript σ) TypedValue
  | .done outcome, t => (outcome, t)
  | .perform op next, t =>
    let (reply, t) := t.perform ns op
    run ns (next reply) t
  | .assign id right next, t =>
    let (r, t) := Transcript.assign ns id (run ns right) t
    run ns (next r) t

end Script
end Sigil.Session
