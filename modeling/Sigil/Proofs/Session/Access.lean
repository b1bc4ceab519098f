import Sigil.Proofs.Reference.Chain
import Sigil.Proofs.Reference.Display
import Sigil.Proofs.Reference.Tiers
import Sigil.Proofs.Session.Places

/-! Access to references in a session. Evaluating a reference and taking its place read the same, in whichever
order and however often, and only evaluations touch the signature. Whether a reference can be written is
answered three times, and always alike: by the reference, by its place, and by an assignment to it. -/

namespace Sigil

variable {σ : Type}

def Namespace.Stable (ns : Namespace σ) : Prop := ∀ name s, ns.Alike s (ns.lookup name s).2

theorem Namespace.Alike.trans {ns : Namespace σ} {s t u : σ} (hst : ns.Alike s t) (htu : ns.Alike t u) :
    ns.Alike s u := fun name => (hst name).trans (htu name)

theorem State.lookup_fst (st : State) (ns : Namespace σ) (name : String) (s : σ) :
    (st.lookup ns name s).1 = (ns.lookup name s).1.bind fun found =>
      match found, st.config.unbound with
      | some t, _ => .ok t
      | none, .lenient => .ok .null
      | none, .strict => .error (.unboundVariable name) := by
  simp only [lookup]
  rcases ns.lookup name s with ⟨e | _ | t, s'⟩
  · rfl
  · cases st.config.unbound <;> rfl
  · rfl

theorem State.lookup_snd (st : State) (ns : Namespace σ) (name : String) (s : σ) :
    (st.lookup ns name s).2 = (ns.lookup name s).2 := by
  simp only [lookup]
  rcases ns.lookup name s with ⟨e | _ | t, s'⟩
  · rfl
  · cases st.config.unbound <;> rfl
  · rfl

namespace Reference

variable {r r' : Reference} {ns : Namespace σ} {st : State} {s t : σ}

theorem outcome_named {text : String} {free : IsFreeName text} (h : r.name = .named text free) :
    (r.evaluate ns st s).outcome = (st.lookup ns text s).1 := by
  rw [evaluate_named h]
  rcases st.lookup ns text s with ⟨e | v, s'⟩ <;> rfl

theorem store_named {text : String} {free : IsFreeName text} (h : r.name = .named text free) :
    (r.evaluate ns st s).store = (ns.lookup text s).2 := by
  rw [evaluate_named h, ← st.lookup_snd ns text s]
  rcases st.lookup ns text s with ⟨e | v, s'⟩ <;> rfl

theorem outcome_of_alike (hname : r'.name = r.name) (alike : ns.Alike s t) :
    (r'.evaluate ns st t).outcome = (r.evaluate ns st s).outcome := by
  cases h : r.name with
  | this =>
    simp only [evaluate, hname, h]
    cases st.isNested <;> rfl
  | root => simp only [evaluate, hname, h]
  | named text free =>
    rw [outcome_named h, outcome_named (hname.trans h), State.lookup_fst, State.lookup_fst, alike text]

theorem alike_of_evaluate (stable : ns.Stable) (r : Reference) (st : State) (s : σ) :
    ns.Alike s (r.evaluate ns st s).store := by
  cases h : r.name with
  | this =>
    simp only [evaluate, h]
    cases st.isNested <;> exact fun _ => rfl
  | root =>
    simp only [evaluate, h]
    exact fun _ => rfl
  | named text free =>
    rw [store_named h]
    exact stable text s

theorem exists_exit_evaluate (r : Reference) (ns : Namespace σ) (st : State) (s : σ) :
    ∃ exit, (r.evaluate ns st s).reference = { r with exit := exit } := by
  rcases r.evaluate_cases ns st s with ⟨_, _, h⟩ | ⟨t, _, ⟨_, h⟩ | ⟨_, h⟩⟩
  · exact ⟨r.exit, h⟩
  · exact ⟨r.exit, h⟩
  · exact ⟨_, h⟩

theorem isWritable_iff (r : Reference) :
    r.isWritable = true ↔ r.name.text ≠ "this" ∧ r.name.text ≠ "root" := by
  unfold isWritable
  cases r.name with
  | this => decide
  | root => decide
  | named text free => exact iff_of_true rfl free.2

theorem text_name_of_ofText {text : String} {span : Span}
    (h : Identifier.ofText text span = .ok r.ident) : r.name.text = text := by
  rw [Identifier.ofText] at h
  cases hname : VariableName.ofText text with
  | error e =>
    rw [hname] at h
    contradiction
  | ok name =>
    rw [hname] at h
    rw [Reference.name, ← Except.ok.inj h]
    exact VariableName.text_of_ofText hname

end Reference

def Operation.Reads (id : String) : Operation → Prop
  | .evaluate node | .takePlace node _ => node = id
  | _ => False

def Reply.read? : Reply → Option (Except EvalError TypedValue)
  | .evaluated r _ => some r
  | .place p => some (.ok p.read)
  | .failed e => some (.error e)
  | _ => none

namespace Session

variable {ns : Namespace σ} {id : String} {r : Reference} {w w' : Session σ}

/-- What may have changed by reading a reference: its own signature, the places kept, and a store in which
nothing is answered otherwise. -/
structure Untouched (ns : Namespace σ) (id : String) (r : Reference) (w w' : Session σ) : Prop where
  own : ∃ exit, w'.nodes.find? id = some (.reference { r with exit := exit })
  others : ∀ other, other ≠ id → w'.nodes.find? other = w.nodes.find? other
  answers : ns.Alike w.store w'.store
  state : w'.state = w.state
  programs : w'.programs = w.programs
  produced : w'.produced = w.produced
  requested : w'.requested = w.requested

theorem evaluate_eq (hnode : w.nodes.find? id = some (.reference r)) :
    evaluate ns id w = ((r.evaluate ns w.state w.store).outcome, { w with
      store := (r.evaluate ns w.state w.store).store
      nodes := w.nodes.insert id (.reference (r.evaluate ns w.state w.store).reference) }) := by
  simp only [evaluate, hnode, Node.evaluate]

theorem step_evaluate (ns : Namespace σ) (hnode : w.nodes.find? id = some (.reference r)) :
    ∃ exit, step ns (.evaluate id) w =
      (.evaluated (r.evaluate ns w.state w.store).outcome exit, { w with
        store := (r.evaluate ns w.state w.store).store
        nodes := w.nodes.insert id (.reference { r with exit := exit }) }) := by
  obtain ⟨exit, hexit⟩ := r.exists_exit_evaluate ns w.state w.store
  refine ⟨exit, ?_⟩
  simp only [step, evaluate_eq hnode, hexit, Dictionary.find?_insert_self]
  rfl

theorem step_takePlace_eq (ns : Namespace σ) (hnode : w.nodes.find? id = some (.reference r)) (as : String) :
    ∃ reply places, reply.read? = some (r.evaluate ns w.state w.store).outcome ∧
      step ns (.takePlace id as) w = (reply, { w with
        store := (r.evaluate ns w.state w.store).store
        places := places }) := by
  cases hvalue : (r.evaluate ns w.state w.store).outcome with
  | ok v =>
    have hread : (Reply.place (r.placed v)).read? = some (.ok v) := by rw [Reply.read?, r.read_placed]
    exact ⟨_, _, hread, step_takePlace hnode hvalue as⟩
  | error e =>
    refine ⟨.failed e, w.places, rfl, ?_⟩
    have hplace : (Node.reference r).place ns w.state w.store =
        (.error e, (r.evaluate ns w.state w.store).store) := by
      rw [Node.place, r.place_eq, hvalue]
      rfl
    simp only [step, hnode, Part.lift, storePart, hplace]

theorem Untouched.refl (hnode : w.nodes.find? id = some (.reference r)) : Untouched ns id r w w where
  own := ⟨r.exit, hnode⟩
  others _ _ := rfl
  answers _ := rfl
  state := rfl
  programs := rfl
  produced := rfl
  requested := rfl

theorem Untouched.step (stable : ns.Stable) (h : Untouched ns id r w w') {op : Operation}
    (reads : op.Reads id) :
    (step ns op w').1.read? = some (r.evaluate ns w.state w.store).outcome ∧
      Untouched ns id r w (step ns op w').2 := by
  obtain ⟨exit, hown⟩ := h.own
  have houtcome : (Reference.evaluate { r with exit := exit } ns w'.state w'.store).outcome =
      (r.evaluate ns w.state w.store).outcome := by
    rw [h.state]
    exact Reference.outcome_of_alike (r := r) rfl h.answers
  have halike := h.answers.trans
    (Reference.alike_of_evaluate stable { r with exit := exit } w'.state w'.store)
  cases op with
  | evaluate node =>
    obtain rfl : node = id := reads
    obtain ⟨exit', hstep⟩ := step_evaluate ns hown
    rw [hstep, houtcome]
    refine ⟨rfl, ⟨exit', Dictionary.find?_insert_self ..⟩, fun other hne => ?_, halike, h.state, h.programs,
      h.produced, h.requested⟩
    exact (Dictionary.find?_insert_of_ne _ hne _).trans (h.others other hne)
  | takePlace node as =>
    obtain rfl : node = id := reads
    obtain ⟨reply, places, hread, hstep⟩ := step_takePlace_eq ns hown as
    rw [hstep]
    exact ⟨hread.trans (congrArg some houtcome), ⟨exit, hown⟩, h.others, halike, h.state, h.programs,
      h.produced, h.requested⟩
  | _ => exact False.elim reads

theorem Untouched.steps (stable : ns.Stable) (h : Untouched ns id r w w') {ops : List Operation}
    (reads : ∀ op ∈ ops, op.Reads id) :
    (∀ reply ∈ (steps ns ops w').1, reply.read? = some (r.evaluate ns w.state w.store).outcome) ∧
      Untouched ns id r w (steps ns ops w').2 := by
  induction ops generalizing w' with
  | nil => exact ⟨fun _ hmem => absurd hmem List.not_mem_nil, h⟩
  | cons op ops ih =>
    obtain ⟨hop, hops⟩ := List.forall_mem_cons.1 reads
    obtain ⟨hread, hafter⟩ := h.step stable hop
    obtain ⟨hreplies, hlast⟩ := ih hafter hops
    exact ⟨List.forall_mem_cons.2 ⟨hread, hreplies⟩, hlast⟩

def recorded (w : Session σ) : Session (Recorded σ) := { w with store := ⟨w.store, []⟩ }

/-- The node refuses an assignment on its own account: as one to a reserved reference, with no call to the
namespace. -/
def RefusesItself (ns : Namespace σ) (id : String) (right : Producer) (w : Session σ) : Prop :=
  (∃ name, (assign ns.recorded id (right.run ns.recorded) w.recorded).1 =
    .error (.unsupportedAssignment name)) ∧
  (assign ns.recorded id (right.run ns.recorded) w.recorded).2.store.calls = []

def Grows (f : Attempt (Session (Recorded σ)) TypedValue) : Prop :=
  ∀ w, w.store.calls <+: (f w).2.store.calls

theorem grows_evaluate (ns : Namespace σ) (id : String) : Grows (evaluate ns.recorded id) := by
  intro w
  unfold evaluate
  split
  · exact List.prefix_rfl
  · next n _ =>
    cases n with
    | host h => exact List.prefix_rfl
    | reference r =>
      have hmakes : Makes (fun _ => r.name.lookups) (r.evaluating ns w.state)
        (r.evaluating ns.recorded w.state) := r.evaluating_recorded w.state
      exact ⟨_, (congrArg (fun e => e.2.calls) (hmakes w.store)).symm⟩

theorem assign_eq_of_writable (hnode : w.nodes.find? id = some (.reference r))
    (hwritable : r.isWritable = true) (right : Attempt (Session σ) TypedValue) :
    assign ns id right w = r.assign ns storePart right { w with requested := w.requested + 1 } := by
  simp only [assign, hnode, Node.assign, Node.isWritable, hwritable, if_true]

theorem assign_eq_of_reserved (hnode : w.nodes.find? id = some (.reference r))
    (hreserved : r.isWritable = false) (right : Attempt (Session σ) TypedValue) :
    assign ns id right w = (.error (.unsupportedAssignment r.name.text), w) := by
  simp only [assign, hnode, Node.assign, Node.isWritable, hreserved, Reference.assign_reserved hreserved]
  rfl

theorem calls_assign (ns : Namespace σ) {v : Session (Recorded σ)}
    (hnode : v.nodes.find? id = some (.reference r)) (hwritable : r.isWritable = true)
    {right : Attempt (Session (Recorded σ)) TypedValue} (grows : Grows right) :
    v.store.calls ++ [.assign r.name.text] <+: (assign ns.recorded id right v).2.store.calls := by
  obtain ⟨text, free, hname⟩ := Reference.exists_named_of_isWritable hwritable
  rw [assign_eq_of_writable hnode hwritable, (Reference.namedCalls hname).assign, hname]
  split
  · exact List.prefix_rfl
  · next s finish _ =>
    exact grows (storePart.put ⟨s, v.store.calls ++ [.assign text]⟩ { v with requested := v.requested + 1 })

theorem grows_assign {right : Attempt (Session (Recorded σ)) TypedValue} (grows : Grows right)
    (ns : Namespace σ) (id : String) : Grows (assign ns.recorded id right) := by
  intro v
  cases hnode : v.nodes.find? id with
  | none =>
    simp only [assign, hnode]
    exact List.prefix_rfl
  | some n =>
    cases n with
    | host h =>
      simp only [assign, hnode]
      exact List.prefix_rfl
    | reference r =>
      cases hwritable : r.isWritable with
      | true => exact (List.prefix_append _ _).trans (calls_assign ns hnode hwritable grows)
      | false =>
        simp only [assign_eq_of_reserved hnode hwritable]
        exact List.prefix_rfl

theorem grows_run (ns : Namespace σ) (p : Producer) : Grows (p.run ns.recorded) := by
  induction p with
  | value t => exact fun _ => List.prefix_rfl
  | fail e => exact fun _ => List.prefix_rfl
  | evaluate id => exact fun v => grows_evaluate ns id { v with produced := v.produced + 1 }
  | assign id right ih => exact fun v => grows_assign ih ns id { v with produced := v.produced + 1 }

theorem refusesItself_iff (hnode : w.nodes.find? id = some (.reference r)) (right : Producer) :
    RefusesItself ns id right w ↔ r.isWritable = false := by
  have hnode' : w.recorded.nodes.find? id = some (.reference r) := hnode
  constructor
  · rintro ⟨-, hcalls⟩
    refine Bool.eq_false_iff.2 fun hwritable => ?_
    have hcall := calls_assign ns hnode' hwritable (grows_run ns right)
    rw [hcalls, List.prefix_nil] at hcall
    exact List.append_ne_nil_of_right_ne_nil _ (List.cons_ne_nil _ _) hcall
  · intro hreserved
    rw [RefusesItself, assign_eq_of_reserved hnode' hreserved]
    exact ⟨⟨_, rfl⟩, rfl⟩

theorem isWritable_of_takePlace (hnode : w.nodes.find? id = some (.reference r)) {as : String} {p : Place}
    (h : (step ns (.takePlace id as) w).1 = .place p) : p.isWritable = r.isWritable := by
  cases hvalue : (r.evaluate ns w.state w.store).outcome with
  | ok v =>
    rw [step_takePlace hnode hvalue] at h
    cases h
    exact r.isWritable_placed v
  | error e =>
    obtain ⟨reply, places, hread, hstep⟩ := step_takePlace_eq ns hnode as
    rw [hstep] at h
    rw [show reply = .place p from h, hvalue] at hread
    cases hread

/-- However often a reference is evaluated and its place taken, all of this reads one value or fails with
one error, over a namespace whose lookups change no answers. -/
theorem accesses_agree (ns : Namespace σ) (stable : ns.Stable) (text : String) (span : Span) (r : Reference)
    (made : Identifier.ofText text span = .ok r.ident) (id : String) (w : Session σ)
    (hnode : w.nodes.find? id = some (.reference r)) :
    let outcome := (r.evaluate ns w.state w.store).outcome
    (∀ ops, (∀ op ∈ ops, Operation.Reads id op) →
      (∀ reply ∈ (steps ns ops w).1, reply.read? = some outcome) ∧
        Untouched ns id r w (steps ns ops w).2) ∧
    (∃ exit, (step ns (.evaluate id) w).2 = { w with
      store := (r.evaluate ns w.state w.store).store
      nodes := w.nodes.insert id (.reference { r with exit := exit }) }) ∧
    (∀ as, (step ns (.takePlace id as) w).2.nodes = w.nodes) ∧
    (r.isWritable = true ↔ text ≠ "this" ∧ text ≠ "root") ∧
    (∀ as p, (step ns (.takePlace id as) w).1 = .place p →
      (p.isWritable = true ↔ text ≠ "this" ∧ text ≠ "root")) ∧
    (∀ right, ¬RefusesItself ns id right w ↔ text ≠ "this" ∧ text ≠ "root") ∧
    (¬(text ≠ "this" ∧ text ≠ "root") → ∀ right,
      step ns (.assign id right) w = (.assigned (.error (.unsupportedAssignment text)) 0 0, w)) := by
  intro outcome
  have htext : r.name.text = text := Reference.text_name_of_ofText made
  have hwritable : r.isWritable = true ↔ text ≠ "this" ∧ text ≠ "root" := htext ▸ r.isWritable_iff
  refine ⟨fun ops reads => (Untouched.refl hnode).steps stable reads, ?_, fun as => ?_, hwritable,
    fun as p hp => ?_, fun right => ?_, fun hreserved right => ?_⟩
  · obtain ⟨exit, hstep⟩ := step_evaluate ns hnode
    exact ⟨exit, congrArg Prod.snd hstep⟩
  · obtain ⟨reply, places, -, hstep⟩ := step_takePlace_eq ns hnode as
    rw [hstep]
  · rw [isWritable_of_takePlace hnode hp, hwritable]
  · rw [refusesItself_iff hnode, Bool.not_eq_false, hwritable]
  · have hfalse : r.isWritable = false := Bool.eq_false_iff.2 (mt hwritable.1 hreserved)
    simp only [step, counting, assign_eq_of_reserved hnode hfalse, htext, Nat.sub_self]

theorem accesses_agree_strict :
    let x : Reference := ⟨⟨.named "x" (by decide), .unlocated⟩, none⟩
    let this : Reference := ⟨⟨.this, .unlocated⟩, some .int⟩
    let w : Session Store :=
      { store := {}
        state := State.push ⟨.null, [], ⟨.strict, 1, 2⟩⟩ (.ofValue (.int 1))
        nodes := (Dictionary.empty.insert "x" (.reference x)).insert "t" (.reference this) }
    let reads : List Operation := [.takePlace "x" "p", .evaluate "x", .takePlace "x" "p"]
    (∀ reply ∈ (steps .standard reads w).1, reply.read? = some (.error (.unboundVariable "x"))) ∧
      ¬RefusesItself .standard "x" (.fail (.unsupportedAssignment "x")) w ∧
      step .standard (.assign "t" (.evaluate "x")) w =
        (.assigned (.error (.unsupportedAssignment "this")) 0 0, w) := by
  intro x this w reads
  have stable : Namespace.standard.Stable := fun _ _ _ => rfl
  have hx : w.nodes.find? "x" = some (.reference x) :=
    (Dictionary.find?_insert_of_ne _ (by decide) _).trans (Dictionary.find?_insert_self ..)
  have hthis : w.nodes.find? "t" = some (.reference this) := Dictionary.find?_insert_self ..
  obtain ⟨hreads, -, -, -, -, hrefuses, -⟩ :=
    accesses_agree .standard stable "x" .unlocated x rfl "x" w hx
  obtain ⟨-, -, -, -, -, -, hrefused⟩ :=
    accesses_agree .standard stable "this" .unlocated this rfl "t" w hthis
  refine ⟨(hreads reads ?_).1, (hrefuses _).2 (by decide), hrefused (by decide) _⟩
  simp [reads, Operation.Reads]

end Session
end Sigil
