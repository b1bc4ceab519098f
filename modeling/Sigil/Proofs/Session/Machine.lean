import Mathlib.Data.List.Forall2
import Mathlib.Logic.Relation
import Sigil.Proofs.Session.Simulation

/-! Scripts step by step. A machine has a script to go on with, the assignments whose right sides are under way,
and the transcript so far. Its steps make up the run of the script, and machines that are in step stay so. -/

namespace Sigil.Session

variable {σ σ' : Type}

structure Pending (σ : Type) where
  finish : Except EvalError TypedValue → Attempt σ TypedValue
  next : Except EvalError TypedValue → Script

structure Machine (σ : Type) where
  script : Script
  pending : List (Pending σ)  -- the innermost first
  transcript : Transcript σ

namespace Transcript

def request (ns : Namespace σ) (id : String) (t : Transcript σ) : Assignment σ :=
  match t.session.nodes.find? id with
  | none => .settled (.error (unknownNode id)) t.session.store
  | some (.host h) => .settled (.error (.notAssignable h.display)) t.session.store
  | some (.reference r) =>
    match r.name with
    | .named text _ => ns.assign text t.session.store
    | reserved => .settled (.error (.unsupportedAssignment reserved.text)) t.session.store

theorem assign_of_settled {ns : Namespace σ} {id : String} {t : Transcript σ}
    {r : Except EvalError TypedValue} {s : σ} (h : t.request ns id = .settled r s)
    (right : Attempt (Transcript σ) TypedValue) :
    assign ns id right t = (r, (storePart.put s t).note (.value r)) := by
  unfold request at h
  unfold assign
  split at h
  · next hnode =>
    cases h
    rw [hnode]
    rfl
  · next host hnode =>
    cases h
    rw [hnode]
    rfl
  · next ref hnode =>
    rw [hnode]
    cases hname : ref.name with
    | named text free =>
      simp only [hname] at h
      simp only [Node.assign, Reference.assign_named hname, Namespace.assignIn, storePart, h]
    | _ =>
      simp only [hname] at h
      cases h
      simp only [Node.assign, Reference.assign, hname]
      rfl

theorem assign_of_awaiting {ns : Namespace σ} {id : String} {t : Transcript σ} {s : σ}
    {finish : Except EvalError TypedValue → Attempt σ TypedValue}
    (h : t.request ns id = .awaiting s finish) (right : Attempt (Transcript σ) TypedValue) :
    assign ns id right t =
      let (produced, t) := right (storePart.put s t)
      let (r, t) := storePart.lift (finish produced) t
      (r, t.note (.value r)) := by
  unfold request at h
  unfold assign
  split at h
  · contradiction
  · contradiction
  · next ref hnode =>
    rw [hnode]
    cases hname : ref.name with
    | named text free =>
      simp only [hname] at h
      simp only [Node.assign, Reference.assign_named hname, Namespace.assignIn, storePart, h]
    | _ =>
      simp only [hname] at h
      contradiction

end Transcript

namespace Machine

def start (script : Script) (t : Transcript σ) : Machine σ := ⟨script, [], t⟩

def step? (ns : Namespace σ) (c : Machine σ) : Option (Machine σ) :=
  match c.script with
  | .done outcome =>
    match c.pending with
    | [] => none
    | p :: pending =>
      let (r, t) := Transcript.storePart.lift (p.finish outcome) c.transcript
      some ⟨p.next r, pending, t.note (.value r)⟩
  | .perform op next =>
    let (reply, t) := c.transcript.perform ns op
    some ⟨next reply, c.pending, t⟩
  | .assign id right next =>
    match c.transcript.request ns id with
    | .settled r s =>
      some ⟨next r, c.pending, (Transcript.storePart.put s c.transcript).note (.value r)⟩
    | .awaiting s finish =>
      some ⟨right, ⟨finish, next⟩ :: c.pending, Transcript.storePart.put s c.transcript⟩

/-- What a machine comes to in any number of steps. -/
def Later (ns : Namespace σ) : Machine σ → Machine σ → Prop :=
  Relation.ReflTransGen fun c c' => c.step? ns = some c'

theorem later_run (ns : Namespace σ) (script : Script) (pending : List (Pending σ)) (t : Transcript σ) :
    Later ns ⟨script, pending, t⟩ ⟨.done (script.run ns t).1, pending, (script.run ns t).2⟩ := by
  -- A right side runs with its assignment pending, so the induction is over all that may be.
  induction script generalizing pending t with
  | done outcome => exact .refl
  | perform op next ih => exact .head rfl (ih _ pending _)
  | assign id right next ihright ihnext =>
    simp only [Script.run]
    cases hrequest : t.request ns id with
    | settled r s =>
      rw [Transcript.assign_of_settled hrequest]
      refine .head ?_ (ihnext r pending _)
      simp only [step?, hrequest]
    | awaiting s finish =>
      rw [Transcript.assign_of_awaiting hrequest]
      refine .head ?_ ((ihright (⟨finish, next⟩ :: pending) _).trans (.head rfl (ihnext _ pending _)))
      simp only [step?, hrequest]

end Machine

variable {m : Reach} {S : σ → σ' → Prop} {ns : Namespace σ} {ns' : Namespace σ'}

structure Pending.InStep (m : Reach) (S : σ → σ' → Prop) (p : Pending σ) (p' : Pending σ') : Prop where
  finish : ∀ produced, Sigil.InStep S (p.finish produced) (p'.finish produced)
  next : p.next = p'.next
  within : ∀ r, (p.next r).Within m

structure Machine.InStep (m : Reach) (S : σ → σ' → Prop) (c : Machine σ) (c' : Machine σ') : Prop where
  script : c.script = c'.script
  within : c.script.Within m
  pending : List.Forall₂ (Pending.InStep m S) c.pending c'.pending
  transcript : Transcript.InStep m S c.transcript c'.transcript

theorem Transcript.request_inStep (hns : ns.InStep m.names S ns') (id : String) {t : Transcript σ}
    {t' : Transcript σ'} (h : InStep m S t t') :
    Assignment.InStep S (t.request ns id) (t'.request ns' id) := by
  unfold request
  rw [← h.session.nodes]
  cases hnode : t.session.nodes.find? id with
  | none => exact .settled _ h.session.store
  | some n =>
    cases n with
    | host host => exact .settled _ h.session.store
    | reference r =>
      have hr : r.Within m := h.session.nodesWithin id _ hnode
      simp only
      split
      · next text free hname =>
        simp only [Reference.Within, hname] at hr
        exact hns.assign text hr _ _ h.session.store
      · exact .settled _ h.session.store

theorem Machine.InStep.step? (hns : ns.InStep m.names S ns') {c : Machine σ} {c' : Machine σ'}
    (h : InStep m S c c') : Option.Rel (InStep m S) (c.step? ns) (c'.step? ns') := by
  obtain ⟨script, pending, t⟩ := c
  obtain ⟨script', pending', t'⟩ := c'
  obtain ⟨rfl, hwithin, hpending, ht⟩ := h
  cases script with
  | done outcome =>
    cases hpending with
    | nil => exact .none
    | cons hp hrest =>
      obtain ⟨r, after, after', hone, hother, hafter⟩ :=
        (Transcript.storePart_inStep.lift (hp.finish outcome)).cases ht
      simp only [Machine.step?, hone, hother]
      exact .some ⟨congrFun hp.next r, hp.within r, hrest, hafter.note rfl⟩
  | perform op next =>
    obtain ⟨hop, hnext⟩ := hwithin
    obtain ⟨hreply, hafter⟩ := Transcript.perform_inStep hns hop ht
    -- What the replies show beyond the reach makes no difference to how the scripts go on.
    have hsame : next (t.perform ns op).1 = next (t'.perform ns' op).1 := by
      rw [(hnext (t.perform ns op).1).1, hreply, ← (hnext (t'.perform ns' op).1).1]
    exact .some ⟨hsame, (hnext _).2, hpending, hafter⟩
  | assign id right next =>
    obtain ⟨hright, hnext⟩ := hwithin
    have hrequest := Transcript.request_inStep hns id ht
    simp only [Machine.step?]
    generalize t.request ns id = a at hrequest
    generalize t'.request ns' id = a' at hrequest
    cases hrequest with
    | settled r related =>
      have hafter := Transcript.storePart_inStep.put _ _ _ _ ht related
      exact .some ⟨rfl, hnext r, hpending, hafter.note rfl⟩
    | awaiting related finishes =>
      have hafter := Transcript.storePart_inStep.put _ _ _ _ ht related
      exact .some ⟨rfl, hright, .cons ⟨finishes, rfl, hnext⟩ hpending, hafter⟩

theorem Machine.Later.inStep (hns : ns.InStep m.names S ns') {c d : Machine σ} (h : Later ns c d)
    {c' : Machine σ'} (hc : InStep m S c c') : ∃ d', Later ns' c' d' ∧ InStep m S d d' := by
  induction h with
  | refl => exact ⟨c', .refl, hc⟩
  | tail _ step ih =>
    obtain ⟨d', hlater, hd⟩ := ih
    have hstep := hd.step? hns
    rw [step] at hstep
    generalize hother : d'.step? ns' = e' at hstep
    cases hstep with
    | some he => exact ⟨_, hlater.tail hother, he⟩

end Sigil.Session
