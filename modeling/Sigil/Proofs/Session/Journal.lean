import Sigil.Namespace.Store
import Sigil.Proofs.Session.Independence
import Sigil.Proofs.Session.Machine

/-! Journals. A namespace is journaled by keeping, beside its store, every write that succeeded. If a namespace
binds what it accepts, a name is bound at any point of a session to what was last written to it. -/

namespace Sigil

variable {σ : Type}

def rebound (binding : String → Option TypedValue) (name : String) (r : Except EvalError TypedValue) :
    String → Option TypedValue :=
  match r with
  | .ok t => fun other => if other = name then some t else binding other
  | .error _ => binding

/-- A namespace that binds what it accepts, as seen by what its lookups answer. Lookups change no binding, nor
does an assignment before its outcome is known. -/
structure Namespace.Binds (ns : Namespace σ) (binding : σ → String → Option TypedValue) : Prop where
  lookup : ∀ name s, binding (ns.lookup name s).2 = binding s
  answer : ∀ name s b, (ns.lookup name s).1 = .ok b → b = binding s name
  set : ∀ name v s, binding (ns.set name v s).2 =
    rebound (binding s) name ((ns.set name v s).1.map fun _ => .ofOption v)
  settled : ∀ name s r s', ns.assign name s = .settled r s' → binding s' = rebound (binding s) name r
  awaiting : ∀ name s s' finish, ns.assign name s = .awaiting s' finish →
    binding s' = binding s ∧
      ∀ produced t, binding (finish produced t).2 = rebound (binding t) name (finish produced t).1

theorem Namespace.standard_binds : standard.Binds Store.find? where
  lookup _ _ := rfl
  answer _ _ _ h := (Except.ok.inj h).symm
  set name v s := by
    simp only [standard]
    split
    · rfl
    · funext other
      simp only [Store.find?_bind, @eq_comm _ name]
      rfl
  settled name s r s' h := by
    simp only [standard] at h
    split at h
    · cases h
      rfl
    · contradiction
  awaiting name s s' finish h := by
    simp only [standard] at h
    split at h
    · contradiction
    · cases h
      refine ⟨rfl, fun produced t => ?_⟩
      cases produced with
      | error e => rfl
      | ok v =>
        funext other
        simp only [Store.find?_bind, @eq_comm _ name]
        rfl

structure Journaled (σ : Type) where
  store : σ
  writes : List (String × TypedValue) := []

namespace Journaled

def after (j : Journaled σ) (name : String) (r : Except EvalError TypedValue) (s : σ) : Journaled σ :=
  match r with
  | .ok t => ⟨s, (name, t) :: j.writes⟩
  | .error _ => ⟨s, j.writes⟩

/-- The journal of a store: each name is bound there to the latest write, or as it was to begin with. -/
structure Tells (binding : σ → String → Option TypedValue) (start : String → Option TypedValue) (s : σ)
    (j : Journaled σ) : Prop where
  store : j.store = s
  latest : ∀ name, binding s name = (j.writes.lookup name).or (start name)

variable {binding : σ → String → Option TypedValue} {start : String → Option TypedValue} {s s' : σ}
  {j : Journaled σ}

theorem Tells.unchanged (h : Tells binding start s j) (hs : binding s' = binding s) :
    Tells binding start s' ⟨s', j.writes⟩ := ⟨rfl, fun name => by rw [hs, h.latest]⟩

theorem Tells.after (h : Tells binding start s j) {name : String} {r : Except EvalError TypedValue}
    (hs : binding s' = rebound (binding s) name r) : Tells binding start s' (j.after name r s') := by
  cases r with
  | error e => exact h.unchanged hs
  | ok t =>
    refine ⟨rfl, fun other => ?_⟩
    rw [hs]
    simp only [rebound, Journaled.after, List.lookup_cons]
    by_cases heq : other = name
    · simp [heq]
    · simp [beq_false_of_ne heq, heq, h.latest]

end Journaled

namespace Namespace

def journaled (ns : Namespace σ) : Namespace (Journaled σ) where
  lookup name j :=
    let (r, s) := ns.lookup name j.store
    (r, ⟨s, j.writes⟩)
  assign name j :=
    match ns.assign name j.store with
    | .settled r s => .settled r (j.after name r s)
    | .awaiting s finish =>
      .awaiting ⟨s, j.writes⟩ fun produced j =>
        let (r, s) := finish produced j.store
        (r, j.after name r s)
  set name v j :=
    let (r, s) := ns.set name v j.store
    (r, j.after name (r.map fun _ => .ofOption v) s)

theorem Binds.inStep {ns : Namespace σ} {binding : σ → String → Option TypedValue} (h : ns.Binds binding)
    (names : Set String) (start : String → Option TypedValue) :
    ns.InStep names (Journaled.Tells binding start) ns.journaled where
  lookup name _ s j hj := by
    obtain rfl := hj.store
    exact ⟨rfl, hj.unchanged (h.lookup name _)⟩
  set name _ v s j hj := by
    obtain rfl := hj.store
    exact ⟨rfl, hj.after (h.set name v _)⟩
  assign name _ s j hj := by
    obtain rfl := hj.store
    simp only [journaled]
    cases hassign : ns.assign name j.store with
    | settled r s' => exact .settled r (hj.after (h.settled name _ r s' hassign))
    | awaiting s' finish =>
      obtain ⟨hbefore, hafter⟩ := h.awaiting name _ s' finish hassign
      refine .awaiting (hj.unchanged hbefore) fun produced t k hk => ?_
      obtain rfl := hk.store
      exact ⟨rfl, hk.after (hafter produced _)⟩

end Namespace

def Reach.all : Reach := ⟨.univ, true⟩

theorem Reference.within_all (r : Reference) : r.Within .all := by
  unfold Within
  split
  · trivial
  · rfl

theorem Node.within_all (n : Node) : n.Within .all := by
  cases n with
  | reference r => exact r.within_all
  | host h => exact ⟨fun _ _ => trivial, rfl⟩

theorem Place.within_all (p : Place) : p.Within .all := by
  cases p <;> trivial

theorem Program.within_all (p : Program) : p.Within .all := ⟨fun _ _ => trivial, fun h => nomatch h⟩

theorem Operation.within_all (op : Operation) : op.Within .all := by
  cases op with
  | parse id source => exact fun r _ => r.within_all
  | refer id name => exact fun r _ => r.within_all
  | host id node => exact ⟨fun _ _ => trivial, rfl⟩
  | _ => trivial

namespace Session

theorem Script.within_all (script : Script) : script.Within .all := by
  induction script with
  | done outcome => trivial
  | perform op next ih =>
    exact ⟨op.within_all, fun reply => ⟨by rw [Reply.within_of_context rfl], ih reply⟩⟩
  | assign id right next ihright ihnext => exact ⟨ihright, ihnext⟩

def journaling (w : Session σ) : Session (Journaled σ) where
  store := ⟨w.store, []⟩
  state := w.state
  nodes := w.nodes
  places := w.places
  programs := w.programs
  produced := w.produced
  requested := w.requested

theorem journaling_inStep (w : Session σ) (binding : σ → String → Option TypedValue) :
    InStep .all (Journaled.Tells binding (binding w.store)) w w.journaling where
  store := ⟨rfl, fun _ => rfl⟩
  state := ⟨rfl, fun _ => rfl⟩
  nodes := rfl
  places := rfl
  programs := rfl
  produced := rfl
  requested := rfl
  nodesWithin _ n _ := n.within_all
  placesWithin _ p _ := p.within_all
  programsWithin _ p _ := p.within_all

def Transcript.journaling (t : Transcript σ) : Transcript (Journaled σ) := ⟨t.session.journaling, t.replies⟩

theorem Machine.exists_journal {ns : Namespace σ} {binding : σ → String → Option TypedValue}
    (h : ns.Binds binding) {script : Script} {t : Transcript σ} {c : Machine σ}
    (later : (start script t).Later ns c) :
    ∃ d, (start script t.journaling).Later ns.journaled d ∧ d.script = c.script ∧
      d.transcript.replies = c.transcript.replies ∧
      Journaled.Tells binding (binding t.session.store) c.transcript.session.store
        d.transcript.session.store := by
  have hstart : InStep .all (Journaled.Tells binding (binding t.session.store)) (start script t)
      (start script t.journaling) :=
    ⟨rfl, script.within_all, .nil, t.session.journaling_inStep binding, rfl⟩
  obtain ⟨d, hlater, hd⟩ := later.inStep (h.inStep .univ _) hstart
  exact ⟨d, hlater, hd.script.symm, (hd.transcript.replies_eq rfl).symm, hd.transcript.session.store⟩

end Session
end Sigil
