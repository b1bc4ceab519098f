import Sigil.Proofs.Dictionary.Lookup
import Sigil.Proofs.Session.InStep
import Sigil.Proofs.Session.Script

/-! Two sessions in step. Sessions over namespaces in step, which are the same as far as a reach goes and hold
nothing that goes further, stay so through every script within that reach, and give the same replies. -/

namespace Sigil

variable {σ σ' : Type}

theorem State.Agree.map {m : Reach} {st st' : State} (h : State.Agree m st st') (f : State → State)
    (config : ∀ st st', st.config = st'.config → (f st).config = (f st').config) :
    State.Agree m (f st) (f st') :=
  ⟨config st st' h.config, fun hcontext => congrArg f (h.context hcontext)⟩

theorem Namespace.InStep.refl (names : Set String) (ns : Namespace σ) : ns.InStep names Eq ns where
  lookup _ _ _ _ hs := hs ▸ ⟨rfl, rfl⟩
  set _ _ _ _ _ hs := hs ▸ ⟨rfl, rfl⟩
  assign name _ s s' hs := by
    subst hs
    cases ns.assign name s with
    | settled r t => exact .settled r rfl
    | awaiting t finish => exact .awaiting rfl fun _ _ _ ht => ht ▸ ⟨rfl, rfl⟩

def Operation.Within (m : Reach) : Operation → Prop
  | .parse _ source => ∀ r, Reference.parse source = .ok r → r.Within m
  | .refer _ name => ∀ r, Reference.ofText name .unlocated = .ok r → r.Within m
  | .host _ node => node.Within m
  | .assignName name _ | .set name _ | .lookup name | .value name => name ∈ m.names
  | _ => True

def Reply.within (m : Reach) : Reply → Reply
  | .popped object isNested => if m.context then .popped object isNested else .popped none false
  | .context active root isNested =>
    if m.context then .context active root isNested else .context .null .null false
  | reply => reply

theorem Reply.within_of_context {m : Reach} (h : m.context = true) (reply : Reply) :
    reply.within m = reply := by
  cases reply <;> simp only [within, h, if_true]

namespace Session

/-- Sessions that are the same as far as the reach goes, and hold nothing that goes further. -/
structure InStep (m : Reach) (S : σ → σ' → Prop) (w : Session σ) (w' : Session σ') : Prop where
  store : S w.store w'.store
  state : State.Agree m w.state w'.state
  nodes : w.nodes = w'.nodes
  places : w.places = w'.places
  programs : w.programs = w'.programs
  produced : w.produced = w'.produced
  requested : w.requested = w'.requested
  nodesWithin : ∀ id n, w.nodes.find? id = some n → n.Within m
  placesWithin : ∀ id p, w.places.find? id = some p → p.Within m
  programsWithin : ∀ id p, w.programs.find? id = some p → p.Within m

variable {m : Reach} {S : σ → σ' → Prop} {ns : Namespace σ} {ns' : Namespace σ'} {w : Session σ}
  {w' : Session σ'}

namespace InStep

theorem withStore (h : InStep m S w w') {s : σ} {s' : σ'} (hs : S s s') :
    InStep m S { w with store := s } { w' with store := s' } := { h with store := hs }

theorem withState (h : InStep m S w w') {st st' : State} (hst : State.Agree m st st') :
    InStep m S { w with state := st } { w' with state := st' } := { h with state := hst }

theorem withProduced (h : InStep m S w w') :
    InStep m S { w with produced := w.produced + 1 } { w' with produced := w'.produced + 1 } :=
  { h with produced := congrArg (· + 1) h.produced }

theorem withRequested (h : InStep m S w w') :
    InStep m S { w with requested := w.requested + 1 } { w' with requested := w'.requested + 1 } :=
  { h with requested := congrArg (· + 1) h.requested }

theorem withNode (h : InStep m S w w') (id : String) {n : Node} (hn : n.Within m) :
    InStep m S { w with nodes := w.nodes.insert id n } { w' with nodes := w'.nodes.insert id n } :=
  { h with
    nodes := congrArg (·.insert id n) h.nodes
    nodesWithin := Dictionary.forall_find?_insert h.nodesWithin hn }

theorem withPlace (h : InStep m S w w') (id : String) {p : Place} (hp : p.Within m) :
    InStep m S { w with places := w.places.insert id p } { w' with places := w'.places.insert id p } :=
  { h with
    places := congrArg (·.insert id p) h.places
    placesWithin := Dictionary.forall_find?_insert h.placesWithin hp }

theorem withProgram (h : InStep m S w w') (id : String) {p : Program} (hp : p.Within m) :
    InStep m S { w with programs := w.programs.insert id p }
      { w' with programs := w'.programs.insert id p } :=
  { h with
    programs := congrArg (·.insert id p) h.programs
    programsWithin := Dictionary.forall_find?_insert h.programsWithin hp }

end InStep

theorem storePart_inStep : Part.InStep (InStep m S) S storePart storePart :=
  ⟨fun _ _ h => h.store, fun _ _ _ _ h hs => h.withStore hs⟩

theorem evaluate_inStep (hns : ns.InStep m.names S ns') (id : String) :
    Sigil.InStep (InStep m S) (evaluate ns id) (evaluate ns' id) := by
  intro w w' h
  have hnodes : w'.nodes.find? id = w.nodes.find? id := by rw [h.nodes]
  cases hn : w.nodes.find? id with
  | none =>
    simp only [evaluate, hnodes, hn]
    exact ⟨trivial, h⟩
  | some n =>
    have hwithin : n.Within m := h.nodesWithin id n hn
    obtain ⟨houtcome, hnode, hstore⟩ := hwithin.evaluate hns h.state h.store
    simp only [evaluate, hnodes, hn, ← hnode]
    exact ⟨houtcome, (h.withStore hstore).withNode id (hwithin.within_evaluate w.store)⟩

theorem assign_inStep (hns : ns.InStep m.names S ns') (id : String)
    {right : Attempt (Session σ) TypedValue} {right' : Attempt (Session σ') TypedValue}
    (hright : Sigil.InStep (InStep m S) right right') :
    Sigil.InStep (InStep m S) (assign ns id right) (assign ns' id right') := by
  intro w w' h
  have hnodes : w'.nodes.find? id = w.nodes.find? id := by rw [h.nodes]
  cases hn : w.nodes.find? id with
  | none =>
    simp only [assign, hnodes, hn]
    exact ⟨trivial, h⟩
  | some n =>
    simp only [assign, hnodes, hn]
    refine (h.nodesWithin id n hn).assign hns storePart_inStep hright _ _ ?_
    cases n.isWritable with
    | true => exact h.withRequested
    | false => exact h

theorem assignName_inStep (hns : ns.InStep m.names S ns') {name : String} (hname : name ∈ m.names)
    {right : Attempt (Session σ) TypedValue} {right' : Attempt (Session σ') TypedValue}
    (hright : Sigil.InStep (InStep m S) right right') :
    Sigil.InStep (InStep m S) (assignName ns name right) (assignName ns' name right') :=
  fun _ _ h => hns.assignIn hname storePart_inStep hright _ _ h.withRequested

theorem emitAll_congr {w : Session σ} {w' : Session σ'} (h : w.nodes = w'.nodes) (em : Emission)
    (ids : List String) : w.emitAll em ids = w'.emitAll em ids := by
  induction ids generalizing em with
  | nil => rfl
  | cons id ids ih => simp only [emitAll, h, ih]

theorem counting_inStep {f : Attempt (Session σ) TypedValue} {g : Attempt (Session σ') TypedValue}
    (h : Sigil.InStep (InStep m S) f g) : Sigil.InStep (InStep m S) (counting f) (counting g) := by
  intro w w' hw
  obtain ⟨r, after, after', hone, hother, hafter⟩ := h.cases hw
  simp only [counting, hone, hother, hw.produced, hw.requested, hafter.produced, hafter.requested]
  exact ⟨trivial, hafter⟩

end Session

theorem Producer.run_inStep {m : Reach} {S : σ → σ' → Prop} {ns : Namespace σ} {ns' : Namespace σ'}
    (hns : ns.InStep m.names S ns') (p : Producer) :
    InStep (Session.InStep m S) (p.run ns) (p.run ns') := by
  induction p with
  | value t => exact fun _ _ h => ⟨rfl, h.withProduced⟩
  | fail e => exact fun _ _ h => ⟨rfl, h.withProduced⟩
  | evaluate id => exact fun _ _ h => Session.evaluate_inStep hns id _ _ h.withProduced
  | assign id right ih => exact fun _ _ h => Session.assign_inStep hns id ih _ _ h.withProduced

namespace Session

variable {m : Reach} {S : σ → σ' → Prop} {ns : Namespace σ} {ns' : Namespace σ'} {w : Session σ}
  {w' : Session σ'}

theorem runProgram_inStep (hns : ns.InStep m.names S ns') {p : Program} (hp : p.Within m)
    (frame : FrameSource) :
    Sigil.InStep (InStep m S) (runProgram ns p frame) (runProgram ns' p frame) := by
  intro w w' h
  have hroot (hcontext : m.context = true) : w.state.root = w'.state.root := by
    rw [h.state.context hcontext]
  cases frame with
  | current =>
    obtain ⟨hanswer, hstore⟩ := hp.run hns hroot _ _ h.store
    exact ⟨congrArg Reply.value hanswer, h.withStore hstore⟩
  | context object =>
    obtain ⟨hanswer, hstore⟩ := hp.run hns (fun _ => rfl) _ _ h.store
    exact ⟨congrArg Reply.value hanswer, h.withStore hstore⟩
  | fresh own store object =>
    have hobject (hcontext : m.context = true) :
        object.getD w.state.root = object.getD w'.state.root := by rw [hroot hcontext]
    obtain ⟨hanswer, -⟩ := hp.run (.refl m.names own) hobject store store rfl
    exact ⟨congrArg Reply.value hanswer, h⟩

theorem step_inStep (hns : ns.InStep m.names S ns') {op : Operation} (hop : op.Within m)
    (h : InStep m S w w') :
    (step ns op w).1.within m = (step ns' op w').1.within m ∧
      InStep m S (step ns op w).2 (step ns' op w').2 := by
  have hsame {f : Session σ → Reply × Session σ} {g : Session σ' → Reply × Session σ'}
      (hfg : Sigil.InStep (InStep m S) f g) :
      (f w).1.within m = (g w').1.within m ∧ InStep m S (f w).2 (g w').2 :=
    ⟨congrArg (Reply.within m) (hfg _ _ h).1, (hfg _ _ h).2⟩
  have hnodes (id : String) : w'.nodes.find? id = w.nodes.find? id := by rw [h.nodes]
  have hplaces (id : String) : w'.places.find? id = w.places.find? id := by rw [h.places]
  have hprograms (id : String) : w'.programs.find? id = w.programs.find? id := by rw [h.programs]
  cases op with
  | parse id source =>
    simp only [step]
    cases hparse : Reference.parse source with
    | error d => exact ⟨rfl, h⟩
    | ok r => exact ⟨rfl, h.withNode id (hop r hparse)⟩
  | refer id name =>
    simp only [step]
    cases hrefer : Reference.ofText name .unlocated with
    | error e => exact ⟨rfl, h⟩
    | ok r => exact ⟨rfl, h.withNode id (hop r hrefer)⟩
  | host id node => exact ⟨rfl, h.withNode id hop⟩
  | describe id =>
    simp only [step, hnodes]
    cases w.nodes.find? id <;> exact ⟨rfl, h⟩
  | evaluate id =>
    obtain ⟨r, after, after', hone, hother, hafter⟩ := (evaluate_inStep hns id).cases h
    simp only [step, hone, hother, hafter.nodes]
    exact ⟨trivial, hafter⟩
  | assign id right => exact hsame (counting_inStep (assign_inStep hns id (right.run_inStep hns)))
  | assignName name right =>
    exact hsame (counting_inStep (assignName_inStep hns hop (right.run_inStep hns)))
  | set name v =>
    obtain ⟨hanswer, hafter⟩ := storePart_inStep.lift (hns.set name hop v) w w' h
    exact ⟨congrArg (Reply.within m ∘ Reply.stored) hanswer, hafter⟩
  | lookup name =>
    obtain ⟨hanswer, hafter⟩ := storePart_inStep.lift (hns.lookup name hop) w w' h
    exact ⟨congrArg (Reply.within m ∘ Reply.binding) hanswer, hafter⟩
  | value name =>
    obtain ⟨hanswer, hafter⟩ := storePart_inStep.lift (h.state.lookup hns hop) w w' h
    exact ⟨congrArg (Reply.within m ∘ Reply.value) hanswer, hafter⟩
  | takePlace node id =>
    simp only [step, hnodes]
    cases hn : w.nodes.find? node with
    | none => exact ⟨rfl, h⟩
    | some n =>
      have hwithin : n.Within m := h.nodesWithin node n hn
      have hplace := hwithin.place hns h.state
      obtain ⟨r, after, after', hone, hother, hafter⟩ := (storePart_inStep.lift hplace).cases h
      simp only [hone, hother]
      cases r with
      | error e => exact ⟨rfl, hafter⟩
      | ok p =>
        have hfst : (storePart.lift (n.place ns w.state) w).1 = .ok p := congrArg Prod.fst hone
        have htaken : n.place ns w.state w.store = (.ok p, (n.place ns w.state w.store).2) :=
          Prod.ext hfst rfl
        exact ⟨rfl, hafter.withPlace id (hwithin.within_place htaken)⟩
  | readPlace id =>
    simp only [step, hplaces]
    cases w.places.find? id <;> exact ⟨rfl, h⟩
  | showPlace id =>
    simp only [step, hplaces]
    cases w.places.find? id <;> exact ⟨rfl, h⟩
  | writePlace id v =>
    simp only [step, hplaces]
    cases hp : w.places.find? id with
    | none => exact ⟨rfl, h⟩
    | some p =>
      have hwrite := (h.placesWithin id p hp).write hns v
      obtain ⟨hanswer, hafter⟩ := storePart_inStep.lift hwrite w w' h
      exact ⟨congrArg (Reply.within m ∘ Reply.stored) hanswer, hafter⟩
  | push object => exact ⟨rfl, h.withState (h.state.map (·.push object) fun _ _ => id)⟩
  | pushRoot => exact ⟨rfl, h.withState (h.state.map State.pushRoot fun _ _ => id)⟩
  | pop =>
    refine ⟨?_, h.withState (h.state.map State.pop fun _ _ => id)⟩
    simp only [step, Reply.within]
    split
    · next hcontext => rw [h.state.context hcontext]
    · rfl
  | context =>
    refine ⟨?_, h⟩
    simp only [step, Reply.within]
    split
    · next hcontext => rw [h.state.context hcontext]
    · rfl
  | configure config =>
    exact ⟨rfl, h.withState (h.state.map (fun st => { st with config := config }) fun _ _ _ => rfl)⟩
  | compile node id config =>
    simp only [step, hnodes, h.state.config]
    cases hn : w.nodes.find? node with
    | none => exact ⟨rfl, h⟩
    | some n =>
      simp only
      cases hp : Program.compile n.codeSource (config.getD w'.state.config) with
      | error e => exact ⟨rfl, h⟩
      | ok p => exact ⟨rfl, h.withProgram id ((h.nodesWithin node n hn).compile hp)⟩
  | run id frame =>
    simp only [step, hprograms]
    cases hp : w.programs.find? id with
    | none => exact ⟨rfl, h⟩
    | some p => exact hsame (runProgram_inStep hns (h.programsWithin id p hp) frame)
  | emit nodes config =>
    simp only [step, h.state.config, emitAll_congr h.nodes]
    exact ⟨trivial, h⟩

/-- Scripts that refer to nothing but what is within reach, and go on the same way whatever they are shown
beyond it. -/
def Script.Within (m : Reach) : Script → Prop
  | .done _ => True
  | .perform op next => op.Within m ∧ ∀ reply, next reply = next (reply.within m) ∧ (next reply).Within m
  | .assign _ right next => right.Within m ∧ ∀ r, (next r).Within m

structure Transcript.InStep (m : Reach) (S : σ → σ' → Prop) (t : Transcript σ) (t' : Transcript σ') :
    Prop where
  session : Session.InStep m S t.session t'.session
  replies : t.replies.map (Reply.within m) = t'.replies.map (Reply.within m)

namespace Transcript

theorem InStep.note {t : Transcript σ} {t' : Transcript σ'} (h : InStep m S t t') {reply reply' : Reply}
    (hreply : reply.within m = reply'.within m) : InStep m S (t.note reply) (t'.note reply') :=
  ⟨h.session, by simp only [Transcript.note, List.map_cons, hreply, h.replies]⟩

theorem storePart_inStep : Part.InStep (InStep m S) S storePart storePart :=
  ⟨fun _ _ h => h.session.store, fun _ _ _ _ h hs => ⟨h.session.withStore hs, h.replies⟩⟩

theorem perform_inStep (hns : ns.InStep m.names S ns') {op : Operation} (hop : op.Within m)
    {t : Transcript σ} {t' : Transcript σ'} (h : InStep m S t t') :
    (t.perform ns op).1.within m = (t'.perform ns' op).1.within m ∧
      InStep m S (t.perform ns op).2 (t'.perform ns' op).2 := by
  obtain ⟨hreply, hsession⟩ := step_inStep hns hop h.session
  have hafter : InStep m S { t with session := (step ns op t.session).2 }
      { t' with session := (step ns' op t'.session).2 } := ⟨hsession, h.replies⟩
  exact ⟨hreply, hafter.note hreply⟩

theorem assign_inStep (hns : ns.InStep m.names S ns') (id : String)
    {right : Attempt (Transcript σ) TypedValue} {right' : Attempt (Transcript σ') TypedValue}
    (hright : Sigil.InStep (InStep m S) right right') :
    Sigil.InStep (InStep m S) (assign ns id right) (assign ns' id right') := by
  intro t t' h
  have hnodes : t'.session.nodes.find? id = t.session.nodes.find? id := by rw [h.session.nodes]
  cases hn : t.session.nodes.find? id with
  | none =>
    simp only [assign, hnodes, hn]
    exact ⟨trivial, h.note rfl⟩
  | some n =>
    have hassign := (h.session.nodesWithin id n hn).assign hns storePart_inStep hright
    obtain ⟨r, after, after', hone, hother, hafter⟩ := hassign.cases h
    simp only [assign, hnodes, hn, hone, hother]
    exact ⟨trivial, hafter.note rfl⟩

end Transcript

theorem Script.run_inStep (hns : ns.InStep m.names S ns') {script : Script} (h : script.Within m) :
    Sigil.InStep (Transcript.InStep m S) (script.run ns) (script.run ns') := by
  induction script with
  | done outcome => exact fun t t' ht => ⟨rfl, ht⟩
  | perform op next ih =>
    obtain ⟨hop, hnext⟩ := h
    intro t t' ht
    obtain ⟨hreply, hafter⟩ := Transcript.perform_inStep hns hop ht
    have hsame : next (t.perform ns op).1 = next (t'.perform ns' op).1 := by
      rw [(hnext (t.perform ns op).1).1, hreply, ← (hnext (t'.perform ns' op).1).1]
    simp only [run, hsame]
    exact ih _ (hnext _).2 _ _ hafter
  | assign id right next ihright ihnext =>
    obtain ⟨hright, hnext⟩ := h
    intro t t' ht
    obtain ⟨r, after, after', hone, hother, hafter⟩ :=
      (Transcript.assign_inStep hns id (ihright hright)).cases ht
    simp only [run, hone, hother]
    exact ihnext r (hnext r) _ _ hafter

end Session
end Sigil
