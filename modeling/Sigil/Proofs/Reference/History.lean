import Sigil.Namespace.Store
import Sigil.Proofs.Reference.Code
import Sigil.Reference.Evaluation

/-! Histories of a reference: evaluations in turn, each over a namespace of its own and in a state of its
own. The exit type is the one that the latest recording evaluation left, and of a fresh reference it is
always a type that compiled code may name. -/

namespace Sigil

/-- What one evaluation runs against. -/
structure Occasion where
  {σ : Type}
  space : Namespace σ
  store : σ
  state : State

def Occasion.recorded (o : Occasion) : VariableName → Option Descriptor
  | .this => if o.state.isNested then none else some (exitDescriptor o.state.root.value)
  | .root => some (exitDescriptor o.state.root.value)
  | .named text _ =>
    match (o.state.lookup o.space text o.store).1 with
    | .ok t => some (exitDescriptor t.value)
    | .error _ => none

theorem Occasion.isAccessible_of_recorded {o : Occasion} {name : VariableName} {d : Descriptor}
    (h : o.recorded name = some d) : d.isAccessible = true := by
  cases name with
  | this =>
    simp only [recorded] at h
    split at h
    · contradiction
    · rw [← Option.some.inj h]
      exact isAccessible_exitDescriptor _
  | root =>
    rw [← Option.some.inj h]
    exact isAccessible_exitDescriptor _
  | named text free =>
    simp only [recorded] at h
    split at h
    · rw [← Option.some.inj h]
      exact isAccessible_exitDescriptor _
    · contradiction

namespace Reference

def step (r : Reference) (o : Occasion) : Reference := (r.evaluate o.space o.state o.store).reference

def after (r : Reference) (history : List Occasion) : Reference := history.foldl step r

@[simp] theorem after_nil (r : Reference) : r.after [] = r := rfl

@[simp] theorem after_cons (r : Reference) (o : Occasion) (history : List Occasion) :
    r.after (o :: history) = (r.step o).after history := rfl

theorem after_append (r : Reference) (p q : List Occasion) : r.after (p ++ q) = (r.after p).after q :=
  List.foldl_append

@[simp] theorem ident_step (r : Reference) (o : Occasion) : (r.step o).ident = r.ident :=
  evaluate_ident r o.space o.state o.store

@[simp] theorem ident_after (r : Reference) (history : List Occasion) :
    (r.after history).ident = r.ident := by
  induction history generalizing r with
  | nil => rfl
  | cons o history ih => rw [after_cons, ih, ident_step]

theorem name_after (r : Reference) (history : List Occasion) : (r.after history).name = r.name :=
  congrArg Identifier.name (ident_after r history)

theorem exit_step (r : Reference) (o : Occasion) : (r.step o).exit = (o.recorded r.name).or r.exit := by
  unfold step
  cases hname : r.name with
  | this =>
    cases nested : o.state.isNested with
    | true => simp [evaluate_nested hname nested, Occasion.recorded, nested]
    | false => simp [evaluate_context (.inr ⟨hname, nested⟩), Occasion.recorded, nested]
  | root => simp [evaluate_context (.inl hname), Occasion.recorded]
  | named text free =>
    rw [evaluate_named hname]
    simp only [Occasion.recorded]
    rcases o.state.lookup o.space text o.store with ⟨e | t, s⟩ <;> rfl

theorem exit_after (r : Reference) (history : List Occasion) :
    (r.after history).exit = (history.reverse.findSome? fun o => o.recorded r.name).or r.exit := by
  induction history generalizing r with
  | nil => rfl
  | cons o history ih =>
    -- The oldest evaluation is the last that the search comes to.
    have hname : (r.step o).name = r.name := congrArg Identifier.name (ident_step r o)
    rw [after_cons, ih, hname, exit_step, List.reverse_cons, List.findSome?_append, ← Option.or_assoc]
    simp

theorem isAccessible_exit_after {ident : Identifier} {history : List Occasion} {d : Descriptor}
    (h : ((ofIdentifier ident).after history).exit = some d) : d.isAccessible = true := by
  rw [exit_after] at h
  simp only [ofIdentifier, Option.or_none, List.findSome?_eq_some_iff] at h
  obtain ⟨_, o, _, _, hrecorded, _⟩ := h
  exact Occasion.isAccessible_of_recorded hrecorded

theorem isCompilable_after (r : Reference) (history : List Occasion) :
    (r.after history).isCompilable = true ↔
      (∃ o ∈ history, (o.recorded r.name).isSome = true) ∨ r.isCompilable = true := by
  rw [isCompilable, exit_after, Option.isSome_or, Bool.or_eq_true, List.findSome?_isSome_iff]
  simp only [List.mem_reverse]
  rfl

theorem isSome_recorded_this (o : Occasion) :
    (o.recorded .this).isSome = true ↔ o.state.isNested = false := by
  cases hnested : o.state.isNested <;> simp [Occasion.recorded, hnested]

theorem isCompilable_after_this {r : Reference} (hthis : r.name = .this) (history : List Occasion) :
    (r.after history).isCompilable = true ↔
      (∃ o ∈ history, o.state.isNested = false) ∨ r.isCompilable = true := by
  simp only [isCompilable_after, hthis, isSome_recorded_this]

theorem display_this {r : Reference} (hthis : r.name = .this) : r.display = "#this" := by
  rw [display, hthis]
  rfl

theorem compile_this {r : Reference} (hthis : r.name = .this) {config : Config}
    (distinct : config.contextSlot ≠ config.namespaceSlot) :
    (r.isCompilable = false ∧ Program.compile r.codeSource config = .error (.notCompilable "#this")) ∨
      (r.isCompilable = true ∧ ∃ exit, Program.compile r.codeSource config =
        .ok ⟨"#this", .load config.contextSlot :: exit.castCode, exit, config⟩) := by
  rw [compile_codeSource r distinct]
  cases hexit : r.exit with
  | none =>
    left
    rw [isCompilable, hexit, display_this hthis]
    exact ⟨rfl, rfl⟩
  | some exit =>
    right
    rw [isCompilable, hexit]
    refine ⟨rfl, exit, ?_⟩
    simp only [program, display_this hthis, hthis, VariableName.code, List.singleton_append]

/-- An evaluation of `#this` in a nested scope leaves the node as the evaluations before it did: not
compilable exactly if all of these were nested, too. Otherwise it is compiled to a load of the root
object. -/
theorem nested_this_isCompilable_iff {σ : Type} (ident : Identifier) (hthis : ident.name = .this)
    (history later : List Occasion) (space : Namespace σ) (store : σ) (st : State)
    (nested : st.isNested = true) :
    let e := ((ofIdentifier ident).after history).evaluate space st store
    e.outcome = .ok st.active ∧
      (e.reference.isCompilable = false ↔ ∀ o ∈ history, o.state.isNested = true) ∧
      (∀ config : Config, config.contextSlot ≠ config.namespaceSlot →
        ((∀ o ∈ history, o.state.isNested = true) ∧
          Program.compile e.reference.codeSource config = .error (.notCompilable "#this")) ∨
        ((∃ o ∈ history, o.state.isNested = false) ∧
          ∃ exit, Program.compile e.reference.codeSource config =
            .ok ⟨"#this", .load config.contextSlot :: exit.castCode, exit, config⟩)) ∧
      ((e.reference.after later).isCompilable = true ↔
        ∃ o ∈ history ++ later, o.state.isNested = false) := by
  intro e
  have hname : ((ofIdentifier ident).after history).name = .this := (name_after _ history).trans hthis
  -- The nested evaluation leaves the node as it was, so only the history counts.
  have he : e = ⟨.ok st.active, store, (ofIdentifier ident).after history⟩ :=
    evaluate_nested hname nested space store
  have hcompilable : e.reference.isCompilable = true ↔ ∃ o ∈ history, o.state.isNested = false := by
    rw [he, isCompilable_after_this (by exact hthis)]
    simp [isCompilable, ofIdentifier]
  have hnot : e.reference.isCompilable = false ↔ ∀ o ∈ history, o.state.isNested = true := by
    rw [← Bool.not_eq_true, hcompilable]
    simp
  refine ⟨by rw [he], hnot, ?_, ?_⟩
  · intro config distinct
    have hreference : e.reference.name = .this := by rw [he, hname]
    rcases compile_this hreference distinct with ⟨hunset, hcompile⟩ | ⟨hset, hcompile⟩
    · exact .inl ⟨hnot.1 hunset, hcompile⟩
    · exact .inr ⟨hcompilable.1 hset, hcompile⟩
  · rw [he, ← after_append, isCompilable_after_this (by exact hthis)]
    simp [isCompilable, ofIdentifier]

theorem nested_this_compiles :
    -- Evaluated at the root, and then in a scope with an object of its own.
    let root : TypedValue := .ofValue (.int 5)
    let inner : TypedValue := .ofValue (.string "inner")
    let outside : State := ⟨root, [], {}⟩
    let inside := outside.push inner
    let node := (ofIdentifier ⟨.this, .unlocated⟩).after [⟨.standard, {}, outside⟩]
    let e := node.evaluate .standard inside {}
    inside.isNested = true ∧ e.outcome = .ok inner ∧ e.reference.isCompilable = true ∧
      ∃ p, Program.compile e.reference.codeSource {} = .ok p ∧
        (p.run .standard inside.root {}).1 = .ok root := by
  refine ⟨rfl, rfl, rfl, ⟨"#this", [.load 1, .cast .int], .int, {}⟩, rfl, rfl⟩

theorem nested_this_until_root :
    let nested : State := State.push ⟨.null, [], {}⟩ .null
    let inScope : Occasion := ⟨.standard, {}, nested⟩
    let atRoot : Occasion := ⟨.standard, {}, nested.pop⟩
    let e := ((ofIdentifier ⟨.this, .unlocated⟩).after [inScope]).evaluate .standard nested {}
    e.reference.isCompilable = false ∧ (e.reference.after [inScope, atRoot]).isCompilable = true := by
  intro nested inScope atRoot e
  have h := nested_this_isCompilable_iff ⟨.this, .unlocated⟩ rfl [inScope] [inScope, atRoot]
    .standard {} nested rfl
  refine ⟨h.2.1.2 ?_, h.2.2.2.2 ⟨atRoot, by simp, rfl⟩⟩
  intro o ho
  rw [List.mem_singleton.1 ho]
  rfl

end Reference
end Sigil
