import Sigil.Place
import Sigil.Reference.Basic
import Sigil.State

/-!
Evaluating a reference directly, taking its place, and assigning to it. An evaluation records the
exit signature, except that of `#this` in a nested scope, whose object is not the one that compiled
code would load. Nothing else touches the signature.
-/

namespace Sigil

structure Evaluated (σ : Type) where
  outcome : Except EvalError TypedValue
  store : σ
  reference : Reference

namespace Reference

variable {σ ω : Type}

def evaluate (r : Reference) (ns : Namespace σ) (st : State) (s : σ) : Evaluated σ :=
  match r.name with
  | .this =>
    -- nothing is recorded for the object of a scope, and what was recorded before stays
    if st.isNested then ⟨.ok st.active, s, r⟩
    else ⟨.ok st.active, s, r.record st.active.value⟩
  | .root => ⟨.ok st.root, s, r.record st.root.value⟩
  | .named text _ =>
    match st.lookup ns text s with
    | (.ok t, s) => ⟨.ok t, s, r.record t.value⟩
    | (.error e, s) => ⟨.error e, s, r⟩

def place (r : Reference) (ns : Namespace σ) (st : State) : Attempt σ Place := fun s =>
  match r.name with
  | .this => (.ok (.context st.active), s)
  | .root => (.ok (.context st.root), s)
  | .named text _ =>
    match st.lookup ns text s with
    | (.ok t, s) => (.ok (.variable text t), s)
    | (.error e, s) => (.error e, s)

def assign (r : Reference) (ns : Namespace σ) (part : Part ω σ) (producer : Attempt ω TypedValue) :
    Attempt ω TypedValue :=
  match r.name with
  | .named text _ => ns.assignIn part text producer
  | reserved => fun w => (.error (.unsupportedAssignment reserved.text), w)

theorem evaluate_nested {r : Reference} {st : State} (hthis : r.name = .this)
    (nested : st.isNested = true) (ns : Namespace σ) (s : σ) :
    r.evaluate ns st s = ⟨.ok st.active, s, r⟩ := by
  simp only [evaluate, hthis, nested, if_true]

theorem evaluate_context {r : Reference} {st : State}
    (h : r.name = .root ∨ r.name = .this ∧ st.isNested = false) (ns : Namespace σ) (s : σ) :
    r.evaluate ns st s = ⟨.ok st.root, s, r.record st.root.value⟩ := by
  unfold evaluate
  rcases h with hroot | ⟨hthis, nested⟩
  · rw [hroot]
  · simp [hthis, nested, State.active_of_not_nested nested]

theorem evaluate_named {r : Reference} {text : String} {free : IsFreeName text}
    (h : r.name = .named text free) (ns : Namespace σ) (st : State) (s : σ) :
    r.evaluate ns st s =
      match st.lookup ns text s with
      | (.ok t, s) => ⟨.ok t, s, r.record t.value⟩
      | (.error e, s) => ⟨.error e, s, r⟩ := by
  rw [evaluate, h]

@[simp] theorem evaluate_ident (r : Reference) (ns : Namespace σ) (st : State) (s : σ) :
    (r.evaluate ns st s).reference.ident = r.ident := by
  unfold evaluate
  split
  · split <;> rfl
  · rfl
  · split <;> rfl

theorem evaluate_cases (r : Reference) (ns : Namespace σ) (st : State) (s : σ) :
    (∃ e, (r.evaluate ns st s).outcome = .error e ∧ (r.evaluate ns st s).reference = r) ∨
      ∃ t, (r.evaluate ns st s).outcome = .ok t ∧
        ((r.name = .this ∧ st.isNested = true) ∧ (r.evaluate ns st s).reference = r ∨
          ¬(r.name = .this ∧ st.isNested = true) ∧
            (r.evaluate ns st s).reference = r.record t.value) := by
  cases hname : r.name with
  | this =>
    cases nested : st.isNested with
    | true =>
      rw [evaluate_nested hname nested]
      exact .inr ⟨st.active, rfl, .inl ⟨⟨rfl, rfl⟩, rfl⟩⟩
    | false =>
      rw [evaluate_context (.inr ⟨hname, nested⟩)]
      exact .inr ⟨st.root, rfl, .inr ⟨by simp, rfl⟩⟩
  | root =>
    rw [evaluate_context (.inl hname)]
    exact .inr ⟨st.root, rfl, .inr ⟨by simp, rfl⟩⟩
  | named text free =>
    rw [evaluate_named hname]
    rcases st.lookup ns text s with ⟨e | t, s'⟩
    · exact .inl ⟨e, rfl, rfl⟩
    · exact .inr ⟨t, rfl, .inr ⟨by simp, rfl⟩⟩

theorem evaluate_standard_store (r : Reference) (st : State) (s : Store) :
    (r.evaluate .standard st s).store = s := by
  unfold evaluate
  split
  · split <;> rfl
  · rfl
  · next text free hname =>
    have hstore := st.lookup_standard_store text s
    split <;> next hlookup => rwa [hlookup] at hstore

theorem place_standard_store (r : Reference) (st : State) (s : Store) :
    (r.place .standard st s).2 = s := by
  unfold place
  split
  · rfl
  · rfl
  · next text free hname =>
    have hstore := st.lookup_standard_store text s
    split <;> next hlookup => rwa [hlookup] at hstore

theorem assign_named {r : Reference} {text : String} {free : IsFreeName text}
    (h : r.name = .named text free) (ns : Namespace σ) (part : Part ω σ)
    (right : Attempt ω TypedValue) : r.assign ns part right = ns.assignIn part text right := by
  simp only [assign, h]

theorem assign_reserved {r : Reference} (h : r.isWritable = false) (ns : Namespace σ) (part : Part ω σ)
    (right : Attempt ω TypedValue) (w : ω) :
    r.assign ns part right w = (.error (.unsupportedAssignment r.name.text), w) := by
  cases hname : r.name with
  | named text free => simp [isWritable, hname, VariableName.isReserved] at h
  | _ => simp only [assign, hname]

theorem assign_standard {r : Reference} {text : String} {free : IsFreeName text}
    (h : r.name = .named text free) (t : TypedValue) (s : Store) :
    r.assign .standard .whole (fun s => (.ok t, s)) s =
      if s.readOnly then (.error (.readOnlyNamespace text), s) else (.ok t, s.bind text t) := by
  rw [assign_named h]
  simp only [Namespace.assignIn, Namespace.standard, Part.whole, Part.lift, id_eq]
  cases s.readOnly <;> rfl

end Reference
end Sigil
