import Sigil.Proofs.Reference.History

/-! The two ways to the value of a reference. A program that was compiled from a reference at any point of
its history does what the value it obtains decides, and nothing of its own goes wrong; run where the
reference was just evaluated, it agrees with the evaluation. -/

namespace Sigil

variable {σ : Type}

def EvalError.isFault : EvalError → Bool
  | .illegalAccess _ | .stackUnderflow | .stackImbalance _ | .invalidSlot _ | .slotConflict _ => true
  | _ => false

/-- Two stores in which every lookup has the same outcome. -/
def Namespace.Alike (ns : Namespace σ) (s t : σ) : Prop :=
  ∀ name, (ns.lookup name s).1 = (ns.lookup name t).1

theorem VariableName.lookup_of_isFault {name : VariableName} {policy : UnboundPolicy}
    {ns : Namespace σ} {context : TypedValue} {s : σ} {e : EvalError}
    (h : (name.obtain policy ns context s).1 = .error e) (fault : e.isFault = true) :
    ∃ text free, name = .named text free ∧ (ns.lookup text s).1 = .error e := by
  cases name with
  | this => contradiction
  | root => contradiction
  | named text free =>
    refine ⟨text, free, rfl, ?_⟩
    rw [obtain_named_fst] at h
    cases hlookup : (ns.lookup text s).1 with
    | error e' =>
      rw [hlookup] at h
      exact congrArg Except.error (Except.error.inj h)
    | ok found =>
      rw [hlookup] at h
      cases found with
      | some t => contradiction
      | none =>
        cases policy with
        | lenient => contradiction
        | strict =>
          rw [← Except.error.inj h] at fault
          contradiction

theorem Descriptor.not_isFault_of_pass {d : Descriptor} {v : Option Value} {e : EvalError}
    (h : d.pass v = .error e) : e.isFault = false := by
  cases v with
  | none => contradiction
  | some v =>
    simp only [pass] at h
    split at h
    · contradiction
    · rw [← Except.error.inj h]
      rfl

theorem pass_exitDescriptor (v : Option Value) : (exitDescriptor v).pass v = .ok v := by
  cases v with
  | none => rfl
  | some v => rw [Descriptor.pass, if_pos (accepts_exitDescriptor v)]

namespace Reference

theorem program_of_compile_after {ident : Identifier} {history : List Occasion} {config : Config}
    {p : Program} (h : Program.compile ((ofIdentifier ident).after history).codeSource config = .ok p) :
    ∃ exit, config.contextSlot ≠ config.namespaceSlot ∧ exit.isAccessible = true ∧
      p = ((ofIdentifier ident).after history).program config exit := by
  obtain ⟨distinct, exit, hexit, hp⟩ := compile_eq_ok_iff.1 h
  exact ⟨exit, distinct, isAccessible_exit_after hexit, hp⟩

/-- The run of a program, compiled at any point of a history, is decided by the value that it obtains.
Every fault comes from the namespace. -/
theorem run_of_compile_after (ident : Identifier) (history : List Occasion) (config : Config)
    (p : Program)
    (compiled : Program.compile ((ofIdentifier ident).after history).codeSource config = .ok p)
    (ns : Namespace σ) (context : TypedValue) (s : σ) :
    (p.run ns context s =
      match ident.name.obtain p.config.unbound ns context s with
      | (.error e, s) => (.error e, s)
      | (.ok none, s) => (.ok ⟨none, some p.exit⟩, s)
      | (.ok (some v), s) =>
        if p.exit.accepts v then (.ok ⟨some v, some p.exit⟩, s)
        else (.error (.classCast p.exit v.runtimeType.name), s)) ∧
      ∀ e, (p.run ns context s).1 = .error e → e.isFault = true →
        ∃ text free, ident.name = .named text free ∧ (ns.lookup text s).1 = .error e := by
  obtain ⟨exit, distinct, accessible, rfl⟩ := program_of_compile_after compiled
  have hname : ((ofIdentifier ident).after history).name = ident.name := name_after _ history
  refine ⟨?_, ?_⟩
  · rw [run_program distinct accessible, hname]
    simp only [program]
    rcases ident.name.obtain config.unbound ns context s with ⟨e | _ | v, s'⟩
    · rfl
    · rfl
    · by_cases haccepts : exit.accepts v = true <;> simp [Descriptor.pass, haccepts, Except.map]
  · intro e he fault
    rw [run_program_fst distinct accessible, hname] at he
    -- Either the value was not obtained, which is up to the namespace, or it did not pass the cast.
    cases hobtain : (ident.name.obtain config.unbound ns context s).1 with
    | error e' =>
      rw [hobtain] at he
      have heq : e' = e := Except.error.inj he
      exact VariableName.lookup_of_isFault (heq ▸ hobtain) fault
    | ok v =>
      rw [hobtain] at he
      change (exit.pass v).map (fun v => (⟨v, some exit⟩ : TypedValue)) = .error e at he
      cases hpass : exit.pass v with
      | ok w =>
        rw [hpass] at he
        contradiction
      | error e' =>
        rw [hpass] at he
        rw [← Except.error.inj he, Descriptor.not_isFault_of_pass hpass] at fault
        contradiction

theorem run_of_compile_after_rebound :
    let ident : Identifier := ⟨.named "x" (by decide), .unlocated⟩
    let occasion : Occasion :=
      ⟨.standard, .ofList [("x", .ofValue (.int 1))] false, ⟨.null, [], {}⟩⟩
    let later : Store := .ofList [("x", .ofValue (.string "one"))] false
    ∃ p, Program.compile ((ofIdentifier ident).after [occasion]).codeSource {} = .ok p ∧
      (p.run .standard .null later).1 = .error (.classCast .int "string") := by
  intro ident occasion later
  have compiled : Program.compile ((ofIdentifier ident).after [occasion]).codeSource {} =
      .ok (((ofIdentifier ident).after [occasion]).program {} .int) := rfl
  refine ⟨_, compiled, ?_⟩
  rw [(run_of_compile_after ident [occasion] {} _ compiled .standard .null later).1]
  rfl

/-- The evaluations whose object compiled code would load: all but those of `#this` in a nested scope. -/
def LoadsRoot (r : Reference) (st : State) : Prop := ¬(r.name = .this ∧ st.isNested = true)

theorem LoadsRoot.context_or_named {r : Reference} {st : State} (h : r.LoadsRoot st) :
    (r.name = .root ∨ r.name = .this ∧ st.isNested = false) ∨ ∃ text free, r.name = .named text free := by
  cases hname : r.name with
  | this => exact .inl (.inr ⟨rfl, Bool.eq_false_iff.2 fun nested => h ⟨hname, nested⟩⟩)
  | root => exact .inl (.inl rfl)
  | named text free => exact .inr ⟨text, free, rfl⟩

theorem obtain_of_evaluate {r : Reference} {ns : Namespace σ} {st : State} {s s' : σ}
    (h : r.LoadsRoot st) (alike : ns.Alike s s') :
    (r.name.obtain st.config.unbound ns st.root s').1 =
      (r.evaluate ns st s).outcome.map TypedValue.value := by
  rcases h.context_or_named with hcontext | ⟨text, free, hname⟩
  · rw [evaluate_context hcontext]
    rcases hcontext with hname | ⟨hname, -⟩ <;> rw [hname] <;> rfl
  · rw [evaluate_named hname, hname, VariableName.obtain_named_fst, ← alike text]
    simp only [State.lookup]
    rcases ns.lookup text s with ⟨e | _ | t, s'⟩
    · rfl
    · cases st.config.unbound <;> rfl
    · rfl

theorem exit_of_evaluate {r : Reference} {ns : Namespace σ} {st : State} {s : σ} {v : TypedValue}
    (h : r.LoadsRoot st) (hv : (r.evaluate ns st s).outcome = .ok v) :
    (r.evaluate ns st s).reference.exit = some (exitDescriptor v.value) := by
  rcases h.context_or_named with hcontext | ⟨text, free, hname⟩
  · rw [evaluate_context hcontext] at hv ⊢
    rw [← Except.ok.inj hv]
    rfl
  · rw [evaluate_named hname] at hv ⊢
    split at hv
    · rw [← Except.ok.inj hv]
      rfl
    · contradiction

theorem loadsRoot_of_evaluate {r : Reference} {ns : Namespace σ} {st : State} {s : σ} {e : EvalError}
    (h : (r.evaluate ns st s).outcome = .error e) : r.LoadsRoot st := by
  rintro ⟨hthis, nested⟩
  rw [evaluate_nested hthis nested] at h
  contradiction

theorem compile_of_evaluate {r : Reference} {ns : Namespace σ} {st : State} {s s' : σ} {v : TypedValue}
    (h : r.LoadsRoot st) (hv : (r.evaluate ns st s).outcome = .ok v) (alike : ns.Alike s s')
    (distinct : st.config.contextSlot ≠ st.config.namespaceSlot) :
    ∃ p, Program.compile (r.evaluate ns st s).reference.codeSource st.config = .ok p ∧
      p.exit = exitDescriptor v.value ∧ (p.run ns st.root s').1 = .ok ⟨v.value, some p.exit⟩ := by
  have hobtain : (r.name.obtain st.config.unbound ns st.root s').1 = .ok v.value := by
    rw [obtain_of_evaluate h alike, hv]
    rfl
  have hname : (r.evaluate ns st s).reference.name = r.name :=
    congrArg Identifier.name (evaluate_ident r ns st s)
  refine ⟨_, compile_eq_ok_iff.2 ⟨distinct, _, exit_of_evaluate h hv, rfl⟩, rfl, ?_⟩
  rw [run_program_fst distinct (isAccessible_exitDescriptor _), hname, hobtain]
  change ((exitDescriptor v.value).pass v.value).map _ = _
  rw [pass_exitDescriptor]
  rfl

/-- The two tiers agree, but for `#this` in a nested scope: the program of a reference returns on the root
object what was evaluated, and fails where the evaluation failed. -/
theorem evaluate_agrees_with_run (ident : Identifier) (history : List Occasion) (ns : Namespace σ)
    (st : State) (s s' : σ) (alike : ns.Alike s s') (config : Config)
    (policy : config.unbound = st.config.unbound) :
    let e := ((ofIdentifier ident).after history).evaluate ns st s
    (∀ v, e.outcome = .ok v → ¬(ident.name = .this ∧ st.isNested = true) →
      config.contextSlot ≠ config.namespaceSlot →
      ∃ p, Program.compile e.reference.codeSource config = .ok p ∧ p.exit = exitDescriptor v.value ∧
        (p.run ns st.root s').1 = .ok ⟨v.value, some (exitDescriptor v.value)⟩) ∧
      ∀ error, e.outcome = .error error → ∀ earlier, earlier <+: history →
        ∀ p, Program.compile ((ofIdentifier ident).after earlier).codeSource config = .ok p →
          (p.run ns st.root s').1 = .error error := by
  intro e
  have hname (past : List Occasion) : ((ofIdentifier ident).after past).name = ident.name :=
    name_after _ past
  refine ⟨?_, ?_⟩
  · intro v hv atRoot distinct
    have hroot : ((ofIdentifier ident).after history).LoadsRoot st := by
      rwa [LoadsRoot, hname history]
    -- The evaluation has just recorded the type of its value, which the value passes.
    have hexit : e.reference.exit = some (exitDescriptor v.value) := exit_of_evaluate hroot hv
    have hident : e.reference.name = ((ofIdentifier ident).after history).name :=
      congrArg Identifier.name (evaluate_ident _ ns st s)
    have hobtain := obtain_of_evaluate hroot alike
    rw [hv, ← policy] at hobtain
    refine ⟨e.reference.program config (exitDescriptor v.value),
      compile_eq_ok_iff.2 ⟨distinct, _, hexit, rfl⟩, rfl, ?_⟩
    rw [run_program_fst distinct (isAccessible_exitDescriptor _), hident, hobtain]
    simp only [Except.map, Except.bind, pass_exitDescriptor]
  · intro error herror earlier _ p compiled
    obtain ⟨exit, distinct, accessible, rfl⟩ := program_of_compile_after compiled
    -- The failure is one of the lookup: it comes before the cast, whatever type was recorded.
    have hobtain := obtain_of_evaluate (loadsRoot_of_evaluate herror) alike
    rw [herror, ← policy, hname history] at hobtain
    rw [run_program_fst distinct accessible, hname earlier, hobtain]
    rfl

theorem evaluate_agrees_with_run_rebound :
    let ident : Identifier := ⟨.named "x" (by decide), .unlocated⟩
    let integer : Store := .ofList [("x", .ofValue (.int 1))] false
    let account : Value := .object ⟨7, ⟨"Account", .restricted⟩, none⟩
    let rebound : Store := .ofList [("x", .declaring (some account) .int)] false
    let inScope : State := State.push ⟨.ofValue (.int 1), [], {}⟩ .null
    let strict : State := ⟨.null, [], ⟨.strict, 2, 1⟩⟩
    let history : List Occasion := [⟨.standard, integer, inScope⟩]
    (∃ p, Program.compile (((ofIdentifier ident).after history).evaluate .standard inScope
          rebound).reference.codeSource ⟨.lenient, 9, 3⟩ = .ok p ∧ p.exit = .any ∧
        (p.run .standard inScope.root { rebound with readOnly := true }).1 =
          .ok ⟨some account, some .any⟩) ∧
      ∃ p, Program.compile ((ofIdentifier ident).after history).codeSource strict.config = .ok p ∧
        (p.run .standard strict.root {}).1 = .error (.unboundVariable "x") := by
  intro ident integer account rebound inScope strict history
  refine ⟨?_, ((ofIdentifier ident).after history).program strict.config .int, rfl, ?_⟩
  · exact (evaluate_agrees_with_run ident history .standard inScope rebound
      { rebound with readOnly := true } (fun _ => rfl) ⟨.lenient, 9, 3⟩ rfl).1
      (.declaring (some account) .int) rfl (by decide) (by decide)
  · exact (evaluate_agrees_with_run ident history .standard strict {} {} (fun _ => rfl) strict.config
      rfl).2 (.unboundVariable "x") rfl history (List.prefix_refl history) _ rfl

end Reference
end Sigil
