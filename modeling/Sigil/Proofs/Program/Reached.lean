import Sigil.Program.Run

/-! The instructions that a run comes to, each with the stack and the store that it finds. A run comes to
all of its code, or stops at the first instruction that fails. Only a lookup with its operands in place asks
the namespace, and is answered under the policy; what any other instruction does depends on neither. -/

namespace Sigil

variable {σ : Type}

def Silent {α : Type} (r : Except EvalError α) : Prop := ∀ name, r ≠ .error (.unboundVariable name)

theorem Silent.ok {α : Type} (x : α) : Silent (.ok x) := by simp [Silent]

theorem silent_error_iff {α : Type} {e : EvalError} :
    Silent (.error e : Except EvalError α) ↔ ∀ name, e ≠ .unboundVariable name := by simp [Silent]

theorem Silent.of_error {α β : Type} {e : EvalError} (h : Silent (.error e : Except EvalError α)) :
    Silent (.error e : Except EvalError β) := silent_error_iff.2 (silent_error_iff.1 h)

theorem Silent.map {α β : Type} {r : Except EvalError α} (h : Silent r) (f : α → β) :
    Silent (r.map f) := by
  cases r with
  | ok x => exact .ok (f x)
  | error e => exact h.of_error

theorem silent_checkCast (type : Descriptor) (v : Option Value) : Silent (checkCast type v) := by
  unfold checkCast
  split
  · simp [Silent]
  · cases v with
    | none => exact .ok ()
    | some v =>
      simp only
      split <;> simp [Silent]

/-- An instruction that a run has come to, with what it finds there. -/
structure Moment (σ : Type) where
  instruction : Instruction
  stack : List Operand
  store : σ

namespace Instruction

def asks : Instruction → List Operand → Option String
  | .lookup, .name text :: .space :: _ => some text
  | _, _ => none

theorem asks_eq_some_iff {i : Instruction} {stack : List Operand} {text : String} :
    i.asks stack = some text ↔ i = .lookup ∧ ∃ rest, stack = .name text :: .space :: rest := by
  constructor
  · intro h
    unfold asks at h
    split at h
    · next text' rest =>
      cases h
      exact ⟨rfl, rest, rfl⟩
    · contradiction
  · rintro ⟨rfl, rest, rfl⟩
    rfl

theorem execute_lookup_of_asks_eq_none {stack : List Operand} (h : lookup.asks stack = none)
    (config : Config) (ns : Namespace σ) (context : TypedValue) (s : σ) :
    execute config ns context .lookup stack s = (.error .stackUnderflow, s) := by
  simp only [execute]
  split
  · contradiction
  · rfl

theorem execute_of_asks_eq_none {i : Instruction} {stack : List Operand} (h : i.asks stack = none)
    (config : Config) (context : TypedValue) :
    ∃ outcome, Silent outcome ∧
      ∀ {σ : Type} (policy : UnboundPolicy) (ns : Namespace σ) (s : σ),
        execute (config.withUnbound policy) ns context i stack s = (outcome, s) := by
  cases i with
  | load slot =>
    by_cases hcontext : slot = config.contextSlot
    · exact ⟨.ok (.value context.value :: stack), .ok _, fun _ _ _ => if_pos hcontext⟩
    · by_cases hspace : slot = config.namespaceSlot
      · exact ⟨.ok (.space :: stack), .ok _, fun _ _ _ => (if_neg hcontext).trans (if_pos hspace)⟩
      · exact ⟨.error (.invalidSlot slot), by simp [Silent], fun _ _ _ =>
          (if_neg hcontext).trans (if_neg hspace)⟩
  | push text => exact ⟨.ok (.name text :: stack), .ok _, fun _ _ _ => rfl⟩
  | lookup =>
    exact ⟨.error .stackUnderflow, by simp [Silent],
      fun _ ns s => execute_lookup_of_asks_eq_none h _ ns _ s⟩
  | cast type =>
    rcases stack with _ | ⟨v | _ | _, rest⟩
    case cons.value =>
      exact ⟨(checkCast type v).map fun () => .value v :: rest, (silent_checkCast type v).map _,
        fun _ _ _ => rfl⟩
    all_goals exact ⟨.error .stackUnderflow, by simp [Silent], fun _ _ _ => rfl⟩

def reached (config : Config) (ns : Namespace σ) (context : TypedValue) :
    List Instruction → List Operand → σ → List (Moment σ)
  | [], _, _ => []
  | i :: code, stack, s =>
    ⟨i, stack, s⟩ ::
      match execute config ns context i stack s with
      | (.error _, _) => []
      | (.ok stack, s) => reached config ns context code stack s

end Instruction

namespace Moment

def asks (m : Moment σ) : Option String := m.instruction.asks m.stack

def execute (config : Config) (ns : Namespace σ) (context : TypedValue) (m : Moment σ) :
    Except EvalError (List Operand) × σ :=
  m.instruction.execute config ns context m.stack m.store

theorem execute_of_lookup_error {config : Config} {ns : Namespace σ} {context : TypedValue}
    {m : Moment σ} {text : String} (h : m.asks = some text) {e : EvalError} {s : σ}
    (fails : ns.lookup text m.store = (.error e, s)) : m.execute config ns context = (.error e, s) := by
  obtain ⟨hlookup, rest, hstack⟩ := Instruction.asks_eq_some_iff.1 h
  simp only [execute, hlookup, hstack, Instruction.execute, fails]

end Moment

namespace Instruction

variable {config : Config} {ns : Namespace σ} {context : TypedValue}

theorem reached_prefix (code : List Instruction) (stack : List Operand) (s : σ) :
    (reached config ns context code stack s).map Moment.instruction <+: code := by
  induction code generalizing stack s with
  | nil => exact List.prefix_rfl
  | cons i code ih =>
    rw [reached, List.map_cons, List.prefix_cons_inj]
    split
    · exact List.nil_prefix
    · exact ih ..

theorem reached_cases (config : Config) (ns : Namespace σ) (context : TypedValue)
    (code : List Instruction) (stack : List Operand) (s : σ) :
    (∃ earlier last e s',
        reached config ns context code stack s = earlier ++ [last] ∧
        (∀ m ∈ earlier, ∃ stack, (m.execute config ns context).1 = .ok stack) ∧
        last.execute config ns context = (.error e, s') ∧
        executeAll config ns context code stack s = (.error e, s')) ∨
      ∃ stack' s',
        (reached config ns context code stack s).map Moment.instruction = code ∧
        (∀ m ∈ reached config ns context code stack s,
          ∃ stack, (m.execute config ns context).1 = .ok stack) ∧
        executeAll config ns context code stack s = (.ok stack', s') := by
  induction code generalizing stack s with
  | nil => exact .inr ⟨stack, s, rfl, List.forall_mem_nil _, rfl⟩
  | cons i code ih =>
    rw [reached, executeAll]
    rcases hstep : execute config ns context i stack s with ⟨e | stack', s'⟩
    · exact .inl ⟨[], ⟨i, stack, s⟩, e, s', rfl, List.forall_mem_nil _, hstep, rfl⟩
    · have hfirst : ∃ stack', ((⟨i, stack, s⟩ : Moment σ).execute config ns context).1 = .ok stack' :=
        ⟨stack', congrArg Prod.fst hstep⟩
      rcases ih stack' s' with
        ⟨earlier, last, e, s'', hreached, hearlier, hlast, hall⟩ | ⟨last, s'', hreached, hmoments, hall⟩
      · refine .inl ⟨⟨i, stack, s⟩ :: earlier, last, e, s'', ?_, ?_, hlast, hall⟩
        · simp only [hreached, List.cons_append]
        · exact List.forall_mem_cons.2 ⟨hfirst, hearlier⟩
      · refine .inr ⟨last, s'', ?_, List.forall_mem_cons.2 ⟨hfirst, hmoments⟩, hall⟩
        simp only [List.map_cons, hreached]

theorem store_of_reached (kept : ∀ name s, (ns.lookup name s).2 = s) {code : List Instruction}
    {stack : List Operand} {s : σ} {m : Moment σ}
    (hm : m ∈ reached config ns context code stack s) : m.store = s := by
  induction code generalizing stack with
  | nil => contradiction
  | cons i code ih =>
    have hstore : (execute config ns context i stack s).2 = s :=
      execute_store kept config context i stack s
    rw [reached] at hm
    rcases List.mem_cons.1 hm with rfl | hlater
    · rfl
    · rcases hstep : execute config ns context i stack s with ⟨e | stack', s'⟩
      · rw [hstep] at hlater
        contradiction
      · rw [hstep] at hlater hstore
        subst hstore
        exact ih hlater

end Instruction

namespace Program

def reached (p : Program) (ns : Namespace σ) (context : TypedValue) (s : σ) : List (Moment σ) :=
  match checkSlots p.config with
  | .error _ => []
  | .ok () => Instruction.reached p.config ns context p.code [] s

variable {ns : Namespace σ} {context : TypedValue}

theorem reached_prefix (p : Program) (s : σ) :
    (p.reached ns context s).map Moment.instruction <+: p.code := by
  unfold reached
  split
  · exact List.nil_prefix
  · exact Instruction.reached_prefix ..

theorem store_of_reached (kept : ∀ name s, (ns.lookup name s).2 = s) {p : Program} {s : σ}
    {m : Moment σ} (hm : m ∈ p.reached ns context s) : m.store = s := by
  unfold reached at hm
  split at hm
  · contradiction
  · exact Instruction.store_of_reached kept hm

theorem run_cases (p : Program) (ns : Namespace σ) (context : TypedValue) (s : σ) :
    (∃ e, checkSlots p.config = .error e ∧ p.reached ns context s = [] ∧
        p.run ns context s = (.error e, s)) ∨
      (∃ earlier last e s',
        p.reached ns context s = earlier ++ [last] ∧
        (∀ m ∈ earlier, ∃ stack, (m.execute p.config ns context).1 = .ok stack) ∧
        last.execute p.config ns context = (.error e, s') ∧
        p.run ns context s = (.error e, s')) ∨
      ∃ stack s',
        (p.reached ns context s).map Moment.instruction = p.code ∧
        (∀ m ∈ p.reached ns context s, ∃ stack, (m.execute p.config ns context).1 = .ok stack) ∧
        p.run ns context s = (result p.exit stack, s') := by
  unfold reached run
  cases checkSlots p.config with
  | error e => exact .inl ⟨e, rfl, rfl, rfl⟩
  | ok =>
    rcases Instruction.reached_cases p.config ns context p.code [] s with
      ⟨earlier, last, e, s', hreached, hearlier, hlast, hall⟩ | ⟨stack, s', hreached, hmoments, hall⟩
    · exact .inr (.inl ⟨earlier, last, e, s', hreached, hearlier, hlast, by rw [hall]⟩)
    · exact .inr (.inr ⟨stack, s', hreached, hmoments, by rw [hall]⟩)

theorem run_of_execute_error {p : Program} {s : σ} {m : Moment σ} (hm : m ∈ p.reached ns context s)
    {e : EvalError} {s' : σ} (fails : m.execute p.config ns context = (.error e, s')) :
    (∃ earlier, p.reached ns context s = earlier ++ [m]) ∧ p.run ns context s = (.error e, s') := by
  have hok : ¬∃ stack, (m.execute p.config ns context).1 = .ok stack := by
    rintro ⟨stack, hstack⟩
    rw [fails] at hstack
    contradiction
  rcases p.run_cases ns context s with
    ⟨-, -, hnone, -⟩ | ⟨earlier, last, e', s'', hreached, hearlier, hlast, hrun⟩ | ⟨-, -, -, hall, -⟩
  · rw [hnone] at hm
    contradiction
  · rw [hreached] at hm
    rcases List.mem_append.1 hm with hbefore | hend
    · exact absurd (hearlier m hbefore) hok
    · obtain rfl : m = last := List.mem_singleton.1 hend
      rw [fails] at hlast
      cases hlast
      exact ⟨⟨earlier, hreached⟩, hrun⟩
  · exact absurd (hall m hm) hok

end Program
end Sigil
