import Sigil.Proofs.Program.Reached
import Sigil.Reference.Evaluation

/-! The policies for names that are not bound. In a program and in a reference, being strict changes nothing
but that a name is reported which has no binding. -/

namespace Sigil

variable {σ : Type}

def Program.under (p : Program) (policy : UnboundPolicy) : Program :=
  { p with config := p.config.withUnbound policy }

def State.under (st : State) (policy : UnboundPolicy) : State :=
  { st with config := st.config.withUnbound policy }

def Namespace.LeavesReporting (ns : Namespace σ) : Prop := ∀ name s, Silent (ns.lookup name s).1

def Program.Misses (p : Program) (ns : Namespace σ) (context : TypedValue) (s : σ) (name : String) :
    Prop :=
  ∃ m ∈ p.reached ns context s, m.asks = some name ∧ (ns.lookup name m.store).1 = .ok none

/-- How a strict ending, with the world that it leaves, stands to the lenient one. -/
structure Stricter {α ω : Type} (Unbound : String → Prop) (strict lenient : Except EvalError α × ω) :
    Prop where
  ok : ∀ x w, strict = (.ok x, w) → lenient = (.ok x, w)
  error : ∀ e w, strict = (.error e, w) → (∀ name, e ≠ .unboundVariable name) → lenient = (.error e, w)
  unbound : ∀ name, strict.1 = .error (.unboundVariable name) → Unbound name
  of_lenient : strict = lenient ∨ ∃ name, strict.1 = .error (.unboundVariable name)

theorem Stricter.of_cases {α ω : Type} {Unbound : String → Prop}
    {strict lenient : Except EvalError α × ω}
    (h : strict = lenient ∨ ∃ name, Unbound name ∧ strict.1 = .error (.unboundVariable name))
    (silent : Silent lenient.1) : Stricter Unbound strict lenient := by
  rcases h with rfl | ⟨name, unbound, hstrict⟩
  · exact ⟨fun _ _ => id, fun _ _ h _ => h, fun name h => absurd h (silent name), .inl rfl⟩
  · refine ⟨fun x w h => ?_, fun e w h other => ?_, fun name' h => ?_, .inr ⟨name, hstrict⟩⟩
    · rw [h] at hstrict
      contradiction
    · rw [h] at hstrict
      exact absurd (Except.error.inj hstrict) (other name)
    · rw [hstrict] at h
      cases h
      exact unbound

namespace Instruction

theorem execute_strict (config : Config) (ns : Namespace σ) (context : TypedValue) (i : Instruction)
    (stack : List Operand) (s : σ) :
    execute (config.withUnbound .strict) ns context i stack s =
        execute (config.withUnbound .lenient) ns context i stack s ∨
      ∃ name, i.asks stack = some name ∧ (ns.lookup name s).1 = .ok none ∧
        (execute (config.withUnbound .strict) ns context i stack s).1 =
          .error (.unboundVariable name) := by
  cases hasks : i.asks stack with
  | none =>
    obtain ⟨outcome, -, hexecute⟩ := execute_of_asks_eq_none hasks config context
    exact .inl ((hexecute .strict ns s).trans (hexecute .lenient ns s).symm)
  | some name =>
    obtain ⟨rfl, rest, rfl⟩ := asks_eq_some_iff.1 hasks
    simp only [execute, Config.withUnbound]
    rcases hlookup : ns.lookup name s with ⟨e | _ | t, s'⟩
    · exact .inl rfl
    · exact .inr ⟨name, rfl, congrArg Prod.fst hlookup, rfl⟩
    · exact .inl rfl

variable {config : Config} {ns : Namespace σ} {context : TypedValue}

theorem silent_execute_lenient (own : ns.LeavesReporting) (i : Instruction) (stack : List Operand)
    (s : σ) : Silent (execute (config.withUnbound .lenient) ns context i stack s).1 := by
  cases hasks : i.asks stack with
  | none =>
    obtain ⟨outcome, silent, hexecute⟩ := execute_of_asks_eq_none hasks config context
    rw [hexecute]
    exact silent
  | some text =>
    obtain ⟨rfl, rest, rfl⟩ := asks_eq_some_iff.1 hasks
    have hown : Silent (ns.lookup text s).1 := own text s
    simp only [execute, Config.withUnbound]
    rcases hlookup : ns.lookup text s with ⟨e | _ | t, s'⟩
    · rw [hlookup] at hown
      exact hown.of_error
    · exact .ok _
    · exact .ok _

theorem executeAll_strict (config : Config) (ns : Namespace σ) (context : TypedValue)
    (code : List Instruction) (stack : List Operand) (s : σ) :
    executeAll (config.withUnbound .strict) ns context code stack s =
        executeAll (config.withUnbound .lenient) ns context code stack s ∨
      ∃ name,
        (∃ m ∈ reached (config.withUnbound .strict) ns context code stack s,
          m.asks = some name ∧ (ns.lookup name m.store).1 = .ok none) ∧
        (executeAll (config.withUnbound .strict) ns context code stack s).1 =
          .error (.unboundVariable name) := by
  induction code generalizing stack s with
  | nil => exact .inl rfl
  | cons i code ih =>
    simp only [executeAll, reached]
    rcases execute_strict config ns context i stack s with hsame | ⟨name, hasks, absent, hstrict⟩
    · rw [← hsame]
      rcases execute (config.withUnbound .strict) ns context i stack s with ⟨e | stack', s'⟩
      · exact .inl rfl
      · rcases ih stack' s' with hrest | ⟨name, ⟨m, hm, hasked⟩, hstrict⟩
        · exact .inl hrest
        · exact .inr ⟨name, ⟨m, List.mem_cons_of_mem _ hm, hasked⟩, hstrict⟩
    · -- Here the policies part, and the strict run does not go on.
      refine .inr ⟨name, ⟨⟨i, stack, s⟩, List.mem_cons_self, hasks, absent⟩, ?_⟩
      rcases hstep : execute (config.withUnbound .strict) ns context i stack s with ⟨e | stack', s'⟩
      · rw [hstep] at hstrict
        exact hstrict
      · rw [hstep] at hstrict
        contradiction

end Instruction

namespace Program

variable {ns : Namespace σ}

theorem run_strict (p : Program) (context : TypedValue) (s : σ) :
    (p.under .strict).run ns context s = (p.under .lenient).run ns context s ∨
      ∃ name, (p.under .strict).Misses ns context s name ∧
        ((p.under .strict).run ns context s).1 = .error (.unboundVariable name) := by
  have hslots (policy : UnboundPolicy) : checkSlots (p.under policy).config = checkSlots p.config := rfl
  simp only [run, Misses, reached, hslots]
  cases checkSlots p.config with
  | error e => exact .inl rfl
  | ok =>
    simp only [under]
    rcases Instruction.executeAll_strict p.config ns context p.code [] s with
      hsame | ⟨name, hmiss, hstrict⟩
    · rw [hsame]
      exact .inl rfl
    · refine .inr ⟨name, hmiss, ?_⟩
      rcases hall : Instruction.executeAll (p.config.withUnbound .strict) ns context p.code [] s with
        ⟨e | stack, s'⟩
      · rw [hall] at hstrict
        exact congrArg Except.error (Except.error.inj hstrict)
      · rw [hall] at hstrict
        contradiction

theorem silent_run_lenient (own : ns.LeavesReporting) (p : Program) (context : TypedValue) (s : σ) :
    Silent ((p.under .lenient).run ns context s).1 := by
  rcases (p.under .lenient).run_cases ns context s with
    ⟨e, hslots, -, hrun⟩ | ⟨-, last, e, s', -, -, hlast, hrun⟩ | ⟨stack, s', -, -, hrun⟩
  · rw [hrun]
    unfold checkSlots at hslots
    split at hslots
    · cases hslots
      simp [Silent]
    · contradiction
  · have hsilent : Silent (last.execute (p.under .lenient).config ns context).1 :=
      Instruction.silent_execute_lenient own last.instruction last.stack last.store
    rw [hlast] at hsilent
    rw [hrun]
    exact hsilent.of_error
  · rw [hrun]
    unfold result
    split <;> simp [Silent]

end Program

namespace State

variable {ns : Namespace σ}

theorem lookup_strict (st : State) (name : String) (s : σ) :
    (st.under .strict).lookup ns name s = (st.under .lenient).lookup ns name s ∨
      (ns.lookup name s).1 = .ok none ∧
        ((st.under .strict).lookup ns name s).1 = .error (.unboundVariable name) ∧
        ((st.under .lenient).lookup ns name s).1 = .ok .null := by
  simp only [lookup, under, Config.withUnbound]
  rcases ns.lookup name s with ⟨e | _ | t, s'⟩
  · exact .inl rfl
  · exact .inr ⟨rfl, rfl, rfl⟩
  · exact .inl rfl

theorem silent_lookup_lenient (own : ns.LeavesReporting) (st : State) (name : String) (s : σ) :
    Silent ((st.under .lenient).lookup ns name s).1 := by
  have hown : Silent (ns.lookup name s).1 := own name s
  simp only [lookup, under, Config.withUnbound]
  rcases hlookup : ns.lookup name s with ⟨e | _ | t, s'⟩
  · rw [hlookup] at hown
    exact hown.of_error
  · exact .ok _
  · exact .ok _

end State

def Evaluated.ending (e : Evaluated σ) : Except EvalError TypedValue × σ × Reference :=
  (e.outcome, e.store, e.reference)

namespace Reference

variable {ns : Namespace σ}

theorem evaluate_strict (r : Reference) (st : State) (s : σ) :
    r.evaluate ns (st.under .strict) s = r.evaluate ns (st.under .lenient) s ∨
      ∃ name, (ns.lookup name s).1 = .ok none ∧
        (r.evaluate ns (st.under .strict) s).outcome = .error (.unboundVariable name) ∧
        (r.evaluate ns (st.under .lenient) s).outcome = .ok .null := by
  cases hname : r.name with
  | this => exact .inl (by simp only [evaluate, hname]; rfl)
  | root => exact .inl (by simp only [evaluate, hname]; rfl)
  | named text free =>
    rw [evaluate_named hname, evaluate_named hname]
    rcases st.lookup_strict text s with hsame | ⟨absent, hstrict, hlenient⟩
    · rw [hsame]
      exact .inl rfl
    · refine .inr ⟨text, absent, ?_, ?_⟩
      · rcases hlookup : (st.under .strict).lookup ns text s with ⟨e | t, s'⟩
        · rw [hlookup] at hstrict
          exact hstrict
        · rw [hlookup] at hstrict
          contradiction
      · rcases hlookup : (st.under .lenient).lookup ns text s with ⟨e | t, s'⟩
        · rw [hlookup] at hlenient
          contradiction
        · rw [hlookup] at hlenient
          exact hlenient

theorem silent_evaluate_lenient (own : ns.LeavesReporting) (r : Reference) (st : State) (s : σ) :
    Silent (r.evaluate ns (st.under .lenient) s).outcome := by
  cases hname : r.name with
  | this =>
    simp only [evaluate, hname]
    split <;> exact .ok _
  | root =>
    simp only [evaluate, hname]
    exact .ok _
  | named text free =>
    have hlookup : Silent ((st.under .lenient).lookup ns text s).1 := st.silent_lookup_lenient own text s
    rw [evaluate_named hname]
    rcases hfound : (st.under .lenient).lookup ns text s with ⟨e | t, s'⟩
    · rw [hfound] at hlookup
      exact hlookup
    · exact .ok t

end Reference

/-- Being strict shows in no other way than that an unbound name is reported, if the lookups of the
namespace do not report one themselves. -/
theorem strict_reports_unbound_only (ns : Namespace σ) (own : ns.LeavesReporting) :
    (∀ (p : Program) (context : TypedValue) (s : σ),
      Stricter ((p.under .strict).Misses ns context s)
        ((p.under .strict).run ns context s) ((p.under .lenient).run ns context s)) ∧
    ((∀ name s, (ns.lookup name s).2 = s) →
      ∀ (p : Program) (context : TypedValue) (s : σ) (name : String),
        p.Misses ns context s name → (ns.lookup name s).1 = .ok none) ∧
    ∀ (r : Reference) (st : State) (s : σ),
      Stricter
        (fun name => (ns.lookup name s).1 = .ok none ∧
          (r.evaluate ns (st.under .lenient) s).outcome = .ok ⟨none, none⟩)
        (r.evaluate ns (st.under .strict) s).ending (r.evaluate ns (st.under .lenient) s).ending := by
  refine ⟨fun p context s => ?_, fun kept p context s name hmiss => ?_, fun r st s => ?_⟩
  · exact .of_cases (p.run_strict context s) (p.silent_run_lenient own context s)
  · obtain ⟨m, hm, -, absent⟩ := hmiss
    rwa [Program.store_of_reached kept hm] at absent
  · refine .of_cases ?_ (r.silent_evaluate_lenient own st s)
    rcases r.evaluate_strict st s with hsame | ⟨name, absent, hstrict, hlenient⟩
    · exact .inl (congrArg Evaluated.ending hsame)
    · exact .inr ⟨name, ⟨absent, hlenient⟩, hstrict⟩

theorem strict_reports_unbound_only_null :
    let p : Program := ⟨"#x", [.load 2, .push "x", .lookup], .any, {}⟩
    let x : Reference := .ofIdentifier ⟨.named "x" (by decide), .unlocated⟩
    let null : Store := .ofList [("x", .null)] false
    Namespace.standard.LeavesReporting ∧
      ((p.under .strict).run .standard .null {}).1 = .error (.unboundVariable "x") ∧
      (Namespace.standard.lookup "x" {}).1 = .ok none ∧
      (p.under .strict).run .standard .null null = (.ok ⟨none, some .any⟩, null) ∧
      (p.under .lenient).run .standard .null null = (.ok ⟨none, some .any⟩, null) ∧
      (x.evaluate .standard (State.under ⟨.null, [], {}⟩ .strict) {}).outcome =
        .error (.unboundVariable "x") ∧
      (x.evaluate .standard (State.under ⟨.null, [], {}⟩ .lenient) {}).outcome = .ok .null := by
  intro p x null
  have own : Namespace.standard.LeavesReporting := fun name s => .ok (s.find? name)
  have hunbound : ((p.under .strict).run .standard .null {}).1 = .error (.unboundVariable "x") := rfl
  have hnull : (p.under .strict).run .standard .null null = (.ok ⟨none, some .any⟩, null) := rfl
  have hreported : (x.evaluate .standard (State.under ⟨.null, [], {}⟩ .strict) {}).outcome =
      .error (.unboundVariable "x") := rfl
  obtain ⟨hrun, hkept, hevaluate⟩ := strict_reports_unbound_only .standard own
  have hmiss : (p.under .strict).Misses .standard .null {} "x" :=
    (hrun p .null {}).unbound "x" hunbound
  have hlenient : (p.under .lenient).run .standard .null null = (.ok ⟨none, some .any⟩, null) :=
    (hrun p .null null).ok _ _ hnull
  exact ⟨own, hunbound, hkept (fun _ _ => rfl) _ .null {} "x" hmiss, hnull, hlenient, hreported,
    ((hevaluate x ⟨.null, [], {}⟩ {}).unbound "x" hreported).2⟩

end Sigil
