import Sigil.Proofs.Namespace.Calls
import Sigil.Proofs.Session.Journal

/-! Places in a session. A place that was taken keeps what it read at that moment, whatever is done later, and
what is written through it goes to the namespace as it is then, or nowhere. -/

namespace Sigil

variable {σ ω α : Type}

def Reference.placed (r : Reference) (v : TypedValue) : Place :=
  match r.name with
  | .named text _ => .variable text v
  | _ => .context v

theorem Reference.placed_named (r : Reference) {text : String} {free : IsFreeName text}
    (h : r.name = .named text free) (v : TypedValue) : r.placed v = .variable text v := by
  rw [placed, h]

theorem Reference.placed_reserved (r : Reference) (h : r.isWritable = false) (v : TypedValue) :
    r.placed v = .context v := by
  unfold placed
  split
  · next text free hname => simp [isWritable, hname, VariableName.isReserved] at h
  · rfl

theorem Reference.read_placed (r : Reference) (v : TypedValue) : (r.placed v).read = v := by
  unfold placed
  split <;> rfl

theorem Reference.isWritable_placed (r : Reference) (v : TypedValue) :
    (r.placed v).isWritable = r.isWritable := by
  unfold placed isWritable
  cases r.name <;> rfl

theorem Reference.place_eq (r : Reference) (ns : Namespace σ) (st : State) (s : σ) :
    r.place ns st s = ((r.evaluate ns st s).outcome.map r.placed, (r.evaluate ns st s).store) := by
  unfold placed
  cases hname : r.name with
  | this =>
    simp only [place, evaluate, hname]
    cases st.isNested <;> rfl
  | root =>
    simp only [place, evaluate, hname]
    rfl
  | named text free =>
    simp only [place, evaluate, hname]
    rcases st.lookup ns text s with ⟨e | v, s'⟩ <;> rfl

theorem Node.assign_keeps {ns : Namespace σ} {part : Part ω σ} {view : ω → α}
    (hput : ∀ s w, view (part.put s w) = view w) {producer : Attempt ω TypedValue}
    (hproducer : ∀ w, view (producer w).2 = view w) (n : Node) (w : ω) :
    view (n.assign ns part producer w).2 = view w := by
  cases n with
  | host h => rfl
  | reference r =>
    cases hname : r.name with
    | named text free =>
      simp only [assign, Reference.assign_named hname]
      exact ns.assignIn_keeps hput hproducer text w
    | _ => simp only [assign, Reference.assign, hname]

def Operation.Spares (id : String) : Operation → Prop
  | .takePlace _ other => other ≠ id
  | _ => True

namespace Session

variable {ns : Namespace σ}

theorem places_evaluate (ns : Namespace σ) (id : String) (w : Session σ) :
    (evaluate ns id w).2.places = w.places := by
  unfold evaluate
  split <;> rfl

theorem places_assign {right : Attempt (Session σ) TypedValue}
    (hright : ∀ w, (right w).2.places = w.places) (id : String) (w : Session σ) :
    (assign ns id right w).2.places = w.places := by
  unfold assign
  split
  · rfl
  · next n _ =>
    have hkept (w : Session σ) : (n.assign ns storePart right w).2.places = w.places :=
      n.assign_keeps (fun _ _ => rfl) hright w
    rw [hkept]
    split <;> rfl

theorem places_assignName {right : Attempt (Session σ) TypedValue}
    (hright : ∀ w, (right w).2.places = w.places) (name : String) (w : Session σ) :
    (assignName ns name right w).2.places = w.places :=
  ns.assignIn_keeps (fun _ _ => rfl) hright name { w with requested := w.requested + 1 }

end Session

theorem Producer.places_run (ns : Namespace σ) (p : Producer) (w : Session σ) :
    (p.run ns w).2.places = w.places := by
  induction p generalizing w with
  | value t => rfl
  | fail e => rfl
  | evaluate id => exact Session.places_evaluate ns id _
  | assign id right ih => exact Session.places_assign ih id _

namespace Session

variable {ns : Namespace σ} {id : String} {p : Place}

theorem find?_places_step {op : Operation} (h : op.Spares id) (w : Session σ) :
    (step ns op w).2.places.find? id = w.places.find? id := by
  cases op with
  | takePlace node other =>
    simp only [step]
    split
    · rfl
    · split
      · next hplace =>
        rw [Dictionary.find?_insert_of_ne _ (Ne.symm h)]
        exact congrArg (fun after => after.2.places.find? id) hplace.symm
      · next hplace => exact congrArg (fun after => after.2.places.find? id) hplace.symm
  | evaluate node => exact congrArg (·.find? id) (places_evaluate ns node w)
  | assign node right =>
    exact congrArg (·.find? id) (places_assign (right.places_run ns) node w)
  | assignName name right =>
    exact congrArg (·.find? id) (places_assignName (right.places_run ns) name w)
  | run program frame =>
    simp only [step]
    split
    · cases frame <;> rfl
    · rfl
  | parse | refer | describe | readPlace | showPlace | writePlace =>
    simp only [step]
    split <;> rfl
  | compile node program config =>
    simp only [step]
    split
    · rfl
    · split <;> rfl
  | _ => rfl

def Script.Spares (id : String) : Script → Prop
  | .done _ => True
  | .perform op next => op.Spares id ∧ ∀ reply, (next reply).Spares id
  | .assign _ right next => right.Spares id ∧ ∀ r, (next r).Spares id

structure Machine.Spares (id : String) (c : Machine σ) : Prop where
  script : c.script.Spares id
  pending : ∀ p ∈ c.pending, ∀ r, (p.next r).Spares id

theorem Machine.Spares.step {c c' : Machine σ} (h : c.Spares id) (hstep : c.step? ns = some c') :
    c'.Spares id ∧
      c'.transcript.session.places.find? id = c.transcript.session.places.find? id := by
  obtain ⟨script, pending, t⟩ := c
  obtain ⟨hscript, hpending⟩ := h
  cases script with
  | done outcome =>
    cases pending with
    | nil => contradiction
    | cons p rest =>
      cases hstep
      obtain ⟨hp, hrest⟩ := List.forall_mem_cons.1 hpending
      exact ⟨⟨hp _, hrest⟩, rfl⟩
  | perform op next =>
    cases hstep
    exact ⟨⟨hscript.2 _, hpending⟩, find?_places_step hscript.1 t.session⟩
  | assign node right next =>
    simp only [step?] at hstep
    split at hstep
    · cases hstep
      exact ⟨⟨hscript.2 _, hpending⟩, rfl⟩
    · cases hstep
      exact ⟨⟨hscript.1, List.forall_mem_cons.2 ⟨hscript.2, hpending⟩⟩, rfl⟩

theorem Machine.Spares.later {c d : Machine σ} (h : c.Spares id) (later : c.Later ns d) :
    d.Spares id ∧
      d.transcript.session.places.find? id = c.transcript.session.places.find? id := by
  induction later with
  | refl => exact ⟨h, rfl⟩
  | tail _ hstep ih =>
    obtain ⟨hspares, hplaces⟩ := ih
    exact ⟨(hspares.step hstep).1, (hspares.step hstep).2.trans hplaces⟩

/-- What the place kept under a name is good for in this session. Reading it touches nothing. Writing to a
variable is the namespace's set on its name, and writing to a context object fails; neither touches any
place. -/
structure KeepsPlace (ns : Namespace σ) (id : String) (p : Place) (w : Session σ) : Prop where
  read : step ns (.readPlace id) w = (.place p, w)
  write : ∀ name snapshot v, p = .variable name snapshot →
    step ns (.writePlace id v) w = step ns (.set name v) w
  refuse : ∀ snapshot v, p = .context snapshot →
    step ns (.writePlace id v) w =
      (.stored (.error (.notAssignable ("context object " ++ snapshot.text))), w)
  places : ∀ v, (step ns (.writePlace id v) w).2.places = w.places

theorem keepsPlace_of_find? {w : Session σ} (h : w.places.find? id = some p) : KeepsPlace ns id p w where
  read := by simp only [step, h]
  write name snapshot v hp := by
    simp only [step, h, hp]
    rfl
  refuse snapshot v hp := by
    simp only [step, h, hp]
    rfl
  places v := by
    simp only [step, h]
    rfl

theorem step_takePlace {w : Session σ} {node : String} {r : Reference}
    (hnode : w.nodes.find? node = some (.reference r)) {v : TypedValue}
    (hvalue : (r.evaluate ns w.state w.store).outcome = .ok v) (id : String) :
    step ns (.takePlace node id) w =
      (.place (r.placed v), { w with
        store := (r.evaluate ns w.state w.store).store
        places := w.places.insert id (r.placed v) }) := by
  have hplace : (Node.reference r).place ns w.state w.store =
      (.ok (r.placed v), (r.evaluate ns w.state w.store).store) := by
    rw [Node.place, r.place_eq, hvalue]
    rfl
  simp only [step, hnode, Part.lift, storePart, hplace]

end Session
end Sigil
