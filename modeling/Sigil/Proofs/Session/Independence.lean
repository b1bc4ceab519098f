import Sigil.Proofs.Session.Simulation

/-! What the results of a session depend on. A script that refers to some names only has the same results
whatever the bindings of other names, and leaves these as they were. What it does to `#this` and `#root` does
not depend on the namespace, and what it does to named references depends neither on the root object nor on
the scopes. -/

namespace Sigil

/-- Bindings, fixed or not in both, that agree on some names. All other names are bound as in the beginning. -/
structure Store.AgreeOn (names : Set String) (start start' s s' : Store) : Prop where
  readOnly : s.readOnly = s'.readOnly
  inside : ∀ name ∈ names, s.find? name = s'.find? name
  outside : ∀ name ∉ names, s.find? name = start.find? name ∧ s'.find? name = start'.find? name

theorem Store.AgreeOn.bind {names : Set String} {start start' s s' : Store}
    (h : AgreeOn names start start' s s') {name : String} (hname : name ∈ names) (t : TypedValue) :
    AgreeOn names start start' (s.bind name t) (s'.bind name t) where
  readOnly := h.readOnly
  inside other hother := by rw [find?_bind, find?_bind, h.inside other hother]
  outside other hother := by
    have hne : other ≠ name := fun heq => hother (heq ▸ hname)
    rw [find?_bind_of_ne _ hne, find?_bind_of_ne _ hne]
    exact h.outside other hother

theorem Namespace.standard_inStep (names : Set String) (start start' : Store) :
    standard.InStep names (Store.AgreeOn names start start') standard where
  lookup name hname s s' hs := ⟨congrArg Except.ok (hs.inside name hname), hs⟩
  set name hname v s s' hs := by
    simp only [standard, hs.readOnly]
    split
    · exact ⟨rfl, hs⟩
    · exact ⟨rfl, hs.bind hname _⟩
  assign name hname s s' hs := by
    simp only [standard, hs.readOnly]
    split
    · exact .settled _ hs
    · refine .awaiting hs fun produced t t' ht => ?_
      cases produced with
      | error e => exact ⟨rfl, ht⟩
      | ok v => exact ⟨rfl, ht.bind hname v⟩

namespace Session

variable {σ σ' : Type}

def Transcript.start (s : σ) (st : State) : Transcript σ := ⟨{ store := s, state := st }, []⟩

theorem Transcript.start_inStep {m : Reach} {S : σ → σ' → Prop} {s : σ} {s' : σ'} (hs : S s s')
    {st st' : State} (hst : State.Agree m st st') : InStep m S (start s st) (start s' st') where
  session := {
    store := hs
    state := hst
    nodes := rfl
    places := rfl
    programs := rfl
    produced := rfl
    requested := rfl
    nodesWithin := fun _ _ h => by contradiction
    placesWithin := fun _ _ h => by contradiction
    programsWithin := fun _ _ h => by contradiction }
  replies := rfl

theorem Transcript.InStep.replies_eq {m : Reach} (hm : m.context = true) {S : σ → σ' → Prop}
    {t : Transcript σ} {t' : Transcript σ'} (h : InStep m S t t') : t.replies = t'.replies := by
  have hwithin : Reply.within m = id := funext (Reply.within_of_context hm)
  have hreplies := h.replies
  rwa [hwithin, List.map_id, List.map_id] at hreplies

/-- The results of a script depend on the bindings of the names that it refers to, and on the context
objects only if it refers to these. -/
theorem results_depend_on_mentioned (script : Script) :
    (∀ names : Set String, script.Within ⟨names, true⟩ → ∀ (st : State) (s s' : Store),
      s.readOnly = s'.readOnly → (∀ name ∈ names, s.find? name = s'.find? name) →
        let one := script.run .standard (.start s st)
        let other := script.run .standard (.start s' st)
        (one.1 = other.1 ∧ one.2.replies = other.2.replies ∧
            one.2.session.nodes = other.2.session.nodes) ∧
          (∀ name ∈ names,
            one.2.session.store.find? name = other.2.session.store.find? name) ∧
          ∀ name ∉ names, one.2.session.store.find? name = s.find? name ∧
            other.2.session.store.find? name = s'.find? name) ∧
      (script.Within ⟨∅, true⟩ → ∀ {σ σ' : Type} (ns : Namespace σ) (ns' : Namespace σ') (st : State)
        (s : σ) (s' : σ'),
          let one := script.run ns (.start s st)
          let other := script.run ns' (.start s' st)
          (one.1 = other.1 ∧ one.2.replies = other.2.replies ∧
              one.2.session.nodes = other.2.session.nodes) ∧
            one.2.session.store = s ∧ other.2.session.store = s') ∧
      (∀ {ω σ σ' : Type} (ns : Namespace σ) (ns' : Namespace σ') (part : Part ω σ) (part' : Part ω σ')
        (r : Reference), r.isWritable = false → ∀ (right right' : Attempt ω TypedValue) (w : ω),
          r.assign ns part right w = r.assign ns' part' right' w) ∧
      (script.Within ⟨.univ, false⟩ → ∀ {σ : Type} (ns : Namespace σ) (st st' : State) (s : σ),
        st.config = st'.config →
          let one := script.run ns (.start s st)
          let other := script.run ns (.start s st')
          (one.1 = other.1 ∧
              one.2.replies.map (Reply.within ⟨.univ, false⟩) =
                other.2.replies.map (Reply.within ⟨.univ, false⟩) ∧
              one.2.session.nodes = other.2.session.nodes) ∧
            one.2.session.store = other.2.session.store) := by
  refine ⟨fun names hscript st s s' hfixed hagree => ?_, fun hscript σ σ' ns ns' st s s' => ?_,
    fun ns ns' part part' r hr right right' w => ?_, fun hscript σ ns st st' s hconfig => ?_⟩
  · have hstart : Store.AgreeOn names s s' s s' := ⟨hfixed, hagree, fun _ _ => ⟨rfl, rfl⟩⟩
    obtain ⟨houtcome, hafter⟩ := Script.run_inStep (Namespace.standard_inStep names s s') hscript _ _
      (Transcript.start_inStep hstart ⟨rfl, fun _ => rfl⟩)
    exact ⟨⟨houtcome, hafter.replies_eq rfl, hafter.session.nodes⟩, hafter.session.store.inside,
      hafter.session.store.outside⟩
  · -- No name is asked for, so nothing has to be known of what the namespaces do.
    have hns : ns.InStep ∅ (fun t t' => t = s ∧ t' = s') ns' :=
      ⟨fun _ h => h.elim, fun _ h => h.elim, fun _ h => h.elim⟩
    obtain ⟨houtcome, hafter⟩ := Script.run_inStep hns hscript _ _
      (Transcript.start_inStep ⟨rfl, rfl⟩ ⟨rfl, fun _ => rfl⟩)
    exact ⟨⟨houtcome, hafter.replies_eq rfl, hafter.session.nodes⟩, hafter.session.store⟩
  · rw [Reference.assign_reserved hr, Reference.assign_reserved hr]
  · have hstates : State.Agree ⟨.univ, false⟩ st st' := ⟨hconfig, fun h => by contradiction⟩
    obtain ⟨houtcome, hafter⟩ := Script.run_inStep (.refl .univ ns) hscript _ _
      (Transcript.start_inStep rfl hstates)
    exact ⟨⟨houtcome, hafter.replies, hafter.session.nodes⟩, hafter.session.store⟩

theorem results_depend_on_mentioned_this :
    -- Some of the bindings are called `this` and `root`, and play no part.
    let x : Operation := .refer "n" "x"
    let this : Operation := .refer "t" "this"
    let entered : TypedValue := .ofValue (.int 7)
    let assigned : Script :=
      .perform x fun _ => .perform this fun _ => .perform (.push entered) fun _ =>
        .assign "n" (.perform (.evaluate "t") fun _ => .done (.ok entered)) .done
    let taken : Script :=
      .perform this fun _ => .perform (.takePlace "t" "p") fun _ =>
        .perform (.writePlace "p" none) fun _ => .done (.ok .null)
    let copied : Script :=
      .perform x fun _ => .perform (.push entered) fun _ =>
        .perform (.assign "n" (.evaluate "n")) fun _ => .perform .pop fun _ => .done (.ok .null)
    let st : State := ⟨.ofValue (.int 1), [], {}⟩
    let s : Store := .ofList [("this", .ofValue (.int 2)), ("y", .null)] false
    let s' : Store := .ofList [("root", .ofValue (.int 3))] false
    let deeper : State := ⟨.null, [.nested entered], {}⟩
    let one := assigned.run .standard (.start s st)
    let other := assigned.run .standard (.start s' st)
    (one.1 = .ok entered ∧ other.1 = .ok entered ∧ one.2.replies = other.2.replies ∧
        one.2.session.store.find? "x" = some entered ∧ other.2.session.store.find? "x" = some entered ∧
        one.2.session.store.find? "this" = some (.ofValue (.int 2)) ∧
        other.2.session.store.find? "this" = none) ∧
      (taken.run .standard (.start s st)).2.replies = (taken.run .offline (.start s' st)).2.replies ∧
      (copied.run .standard (.start s st)).2.session.store =
        (copied.run .standard (.start s deeper)).2.session.store := by
  intro x this entered assigned taken copied st s s' deeper one other
  have hx {m : Reach} (h : "x" ∈ m.names) : x.Within m := by
    intro r hr
    cases hr
    exact h
  have hthis {m : Reach} (h : m.context = true) : this.Within m := by
    intro r hr
    cases hr
    exact h
  have hassigned : assigned.Within ⟨{"x"}, true⟩ :=
    ⟨hx rfl, fun _ => ⟨rfl, hthis rfl, fun _ => ⟨rfl, trivial, fun _ => ⟨rfl,
      ⟨trivial, fun _ => ⟨rfl, trivial⟩⟩, fun _ => trivial⟩⟩⟩⟩
  have htaken : taken.Within ⟨∅, true⟩ :=
    ⟨hthis rfl, fun _ => ⟨rfl, trivial, fun _ => ⟨rfl, trivial, fun _ => ⟨rfl, trivial⟩⟩⟩⟩
  have hcopied : copied.Within ⟨.univ, false⟩ :=
    ⟨hx trivial, fun _ => ⟨rfl, trivial, fun _ => ⟨rfl, trivial, fun _ => ⟨rfl, trivial,
      fun _ => ⟨rfl, trivial⟩⟩⟩⟩⟩
  have hagree : ∀ name ∈ ({"x"} : Set String), s.find? name = s'.find? name := by
    rintro name rfl
    rfl
  obtain ⟨⟨houtcome, hreplies, -⟩, hinside, houtside⟩ :=
    (results_depend_on_mentioned assigned).1 {"x"} hassigned st s s' rfl hagree
  obtain ⟨hone, hother⟩ := houtside "this" (by decide)
  obtain ⟨⟨-, hplaces, -⟩, -⟩ :=
    (results_depend_on_mentioned taken).2.1 htaken .standard .offline st s s'
  obtain ⟨-, hstores⟩ :=
    (results_depend_on_mentioned copied).2.2.2 hcopied .standard st deeper s rfl
  exact ⟨⟨rfl, houtcome.symm, hreplies, rfl, (hinside "x" rfl).symm, hone, hother⟩, hplaces, hstores⟩

end Session
end Sigil
