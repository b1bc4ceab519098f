import Sigil.Proofs.Program.Reached
import Sigil.Proofs.Reference.Code
import Sigil.Reference.Evaluation

/-! The calls that a namespace gets. A namespace is recorded by keeping, beside its store, every call made to
it; whatever it does and answers, references, places and programs make the calls said here and no others, and
hand back what they are answered. -/

namespace Sigil

variable {σ : Type}

inductive Call where
  | lookup (name : String)
  | assign (name : String)
  | set (name : String) (v : Option Value)

structure Recorded (σ : Type) where
  store : σ
  calls : List Call

def Namespace.recorded (ns : Namespace σ) : Namespace (Recorded σ) where
  lookup name t :=
    let (r, s) := ns.lookup name t.store
    (r, ⟨s, t.calls ++ [.lookup name]⟩)
  assign name t :=
    match ns.assign name t.store with
    | .settled r s => .settled r ⟨s, t.calls ++ [.assign name]⟩
    | .awaiting s finish =>
      .awaiting ⟨s, t.calls ++ [.assign name]⟩ fun produced t =>
        let (r, s) := finish produced t.store
        (r, ⟨s, t.calls⟩)
  set name v t :=
    let (r, s) := ns.set name v t.store
    (r, ⟨s, t.calls ++ [.set name v]⟩)

/-- Over the recorded namespace `f` does what `g` does over the namespace itself, and it makes these calls,
whatever was called before. -/
def Makes {β : Type} (calls : σ → List Call) (g : σ → β × σ) (f : Recorded σ → β × Recorded σ) : Prop :=
  ∀ t, f t = ((g t.store).1, ⟨(g t.store).2, t.calls ++ calls t.store⟩)

def VariableName.lookups : VariableName → List Call
  | .named text _ => [.lookup text]
  | _ => []

theorem VariableName.lookups_of_isReserved {name : VariableName} (h : name.isReserved = true) :
    name.lookups = [] := by
  cases name with
  | named text free => contradiction
  | _ => rfl

def Place.sets (v : Option Value) : Place → List Call
  | .context _ => []
  | .variable name _ => [.set name v]

def Moment.calls (m : Moment σ) : List Call := (m.asks.map Call.lookup).toList

variable {ns : Namespace σ}

theorem Namespace.lookup_recorded (name : String) :
    Makes (fun _ => [.lookup name]) (ns.lookup name) (ns.recorded.lookup name) := fun _ => rfl

theorem State.lookup_recorded (st : State) (name : String) :
    Makes (fun _ => [.lookup name]) (st.lookup ns name) (st.lookup ns.recorded name) := by
  intro t
  simp only [State.lookup, Namespace.lookup_recorded name t]
  rcases ns.lookup name t.store with ⟨e | _ | t', s⟩
  · rfl
  · cases st.config.unbound <;> rfl
  · rfl

theorem Place.write_recorded (p : Place) (v : Option Value) :
    Makes (fun _ => p.sets v) (p.write ns v) (p.write ns.recorded v) := by
  intro t
  rcases p with snapshot | ⟨name, snapshot⟩
  · simp only [write, sets, List.append_nil]
  · rfl

namespace Reference

def evaluating (r : Reference) (ns : Namespace σ) (st : State) (s : σ) :
    (Except EvalError TypedValue × Reference) × σ :=
  let e := r.evaluate ns st s
  ((e.outcome, e.reference), e.store)

theorem evaluating_recorded (r : Reference) (st : State) :
    Makes (fun _ => r.name.lookups) (r.evaluating ns st) (r.evaluating ns.recorded st) := by
  intro t
  simp only [evaluating, evaluate]
  cases hname : r.name with
  | this =>
    simp only [VariableName.lookups, List.append_nil]
    cases st.isNested <;> rfl
  | root => simp only [VariableName.lookups, List.append_nil]
  | named text free =>
    simp only [State.lookup_recorded st text t, VariableName.lookups]
    rcases st.lookup ns text t.store with ⟨e | v, s⟩ <;> rfl

theorem place_recorded (r : Reference) (st : State) :
    Makes (fun _ => r.name.lookups) (r.place ns st) (r.place ns.recorded st) := by
  intro t
  simp only [place]
  cases hname : r.name with
  | this => simp only [VariableName.lookups, List.append_nil]
  | root => simp only [VariableName.lookups, List.append_nil]
  | named text free =>
    simp only [State.lookup_recorded st text t, VariableName.lookups]
    rcases st.lookup ns text t.store with ⟨e | v, s⟩ <;> rfl

end Reference

namespace Instruction

variable {config : Config} {context : TypedValue}

theorem execute_recorded (i : Instruction) (stack : List Operand) :
    Makes (fun s => (⟨i, stack, s⟩ : Moment σ).calls) (execute config ns context i stack)
      (execute config ns.recorded context i stack) := by
  intro t
  simp only [Moment.calls, Moment.asks]
  cases hasks : i.asks stack with
  | none =>
    obtain ⟨outcome, -, hexecute⟩ := execute_of_asks_eq_none hasks config context
    have hplain : execute config ns context i stack t.store = (outcome, t.store) :=
      hexecute config.unbound ns t.store
    have hrecorded : execute config ns.recorded context i stack t = (outcome, t) :=
      hexecute config.unbound ns.recorded t
    rw [hplain, hrecorded]
    simp only [Option.map_none, Option.toList_none, List.append_nil]
  | some text =>
    obtain ⟨rfl, rest, rfl⟩ := asks_eq_some_iff.1 hasks
    simp only [execute, Namespace.lookup_recorded text t]
    rcases ns.lookup text t.store with ⟨e | _ | v, s⟩
    · rfl
    · cases config.unbound <;> rfl
    · rfl

theorem executeAll_recorded (code : List Instruction) (stack : List Operand) :
    Makes (fun s => (reached config ns context code stack s).flatMap Moment.calls)
      (executeAll config ns context code stack) (executeAll config ns.recorded context code stack) := by
  induction code generalizing stack with
  | nil =>
    intro t
    simp only [executeAll, reached, List.flatMap_nil, List.append_nil]
  | cons i code ih =>
    intro t
    simp only [executeAll, reached, execute_recorded i stack t, List.flatMap_cons]
    rcases execute config ns context i stack t.store with ⟨e | stack', s⟩
    · simp only [List.flatMap_nil, List.append_nil]
    · simp only [ih stack' _, List.append_assoc]

end Instruction

theorem Program.run_recorded (p : Program) (context : TypedValue) :
    Makes (fun s => (p.reached ns context s).flatMap Moment.calls) (p.run ns context)
      (p.run ns.recorded context) := by
  intro t
  simp only [run, reached]
  cases checkSlots p.config with
  | error e => simp only [List.flatMap_nil, List.append_nil]
  | ok =>
    simp only [Instruction.executeAll_recorded p.code [] t]
    rcases Instruction.executeAll p.config ns context p.code [] t.store with ⟨e | stack, s⟩ <;> rfl

namespace Moment

theorem asks_of_ne {m : Moment σ} (h : m.instruction ≠ .lookup) : m.asks = none := by
  cases hasks : m.asks with
  | none => rfl
  | some text => exact absurd (Instruction.asks_eq_some_iff.1 hasks).1 h

theorem calls_of_asks_eq_none {m : Moment σ} (h : m.asks = none) : m.calls = [] := by
  rw [calls, h]
  rfl

end Moment

namespace Program

variable {context : TypedValue}

theorem calls_eq_nil_of_not_mem {p : Program} (h : .lookup ∉ p.code) (s : σ) :
    (p.reached ns context s).flatMap Moment.calls = [] := by
  refine List.flatMap_eq_nil_iff.2 fun m hm => Moment.calls_of_asks_eq_none (Moment.asks_of_ne ?_)
  intro hlookup
  have hcode : m.instruction ∈ p.code := (p.reached_prefix s).subset (List.mem_map_of_mem hm)
  exact h (hlookup ▸ hcode)

end Program

theorem Namespace.assignIn_keeps {α ω : Type} {part : Part ω σ} {view : ω → α}
    (hput : ∀ s w, view (part.put s w) = view w) {producer : Attempt ω TypedValue}
    (hproducer : ∀ w, view (producer w).2 = view w) (name : String) (w : ω) :
    view (ns.assignIn part name producer w).2 = view w := by
  unfold assignIn
  split
  · exact hput ..
  · simp only [Part.lift, hput, hproducer]

theorem VariableName.not_mem_code {name : VariableName} (h : name.isReserved = true) (exit : Descriptor)
    (context space : Slot) : .lookup ∉ name.code context space ++ exit.castCode := by
  unfold Descriptor.castCode
  cases name with
  | named text free => contradiction
  | _ => split <;> simp [VariableName.code]

/-- The calls for a reference with a name of its own. -/
structure NamedCalls (ns : Namespace σ) (r : Reference) (text : String) : Prop where
  evaluate : ∀ st,
    Makes (fun _ => [.lookup text]) (r.evaluating ns st) (r.evaluating ns.recorded st)
  place : ∀ st, Makes (fun _ => [.lookup text]) (r.place ns st) (r.place ns.recorded st)
  failing : ∀ st s e s', ns.lookup text s = (.error e, s') →
    r.evaluate ns st s = ⟨.error e, s', r⟩ ∧ r.place ns st s = (.error e, s')
  assign : ∀ {ω : Type} (part : Part ω (Recorded σ)) (producer : Attempt ω TypedValue) (w : ω),
    r.assign ns.recorded part producer w =
      match ns.assign text (part.get w).store with
      | .settled result s => (result, part.put ⟨s, (part.get w).calls ++ [.assign text]⟩ w)
      | .awaiting s finish =>
        let (produced, w) := producer (part.put ⟨s, (part.get w).calls ++ [.assign text]⟩ w)
        let (result, s) := finish produced (part.get w).store
        (result, part.put ⟨s, (part.get w).calls⟩ w)
  signature : ∀ {ω : Type} (part : Part ω σ) (producer : Attempt ω TypedValue)
    (exit : ω → ExitSignature), (∀ s w, exit (part.put s w) = exit w) →
      (∀ w, exit (producer w).2 = exit w) → ∀ w, exit (r.assign ns part producer w).2 = exit w

structure ReservedCalls (ns : Namespace σ) (r : Reference) : Prop where
  evaluate : ∀ st, Makes (fun _ => []) (r.evaluating ns st) (r.evaluating ns.recorded st)
  place : ∀ st, Makes (fun _ => []) (r.place ns st) (r.place ns.recorded st)
  write : ∀ st s p v, (r.place ns st s).1 = .ok p →
    Makes (fun _ => []) (p.write ns v) (p.write ns.recorded v)
  assign : ∀ {ω : Type} (part : Part ω (Recorded σ)) (producer : Attempt ω TypedValue) (w : ω),
    r.assign ns.recorded part producer w = (.error (.unsupportedAssignment r.name.text), w)
  run : ∀ config p context, Program.compile r.codeSource config = .ok p →
    Makes (fun _ => []) (p.run ns context) (p.run ns.recorded context)

structure RunCalls (ns : Namespace σ) (p : Program) (context : TypedValue) : Prop where
  run : Makes (fun s => (p.reached ns context s).flatMap Moment.calls) (p.run ns context)
    (p.run ns.recorded context)
  in_order : ∀ s, (p.reached ns context s).map Moment.instruction <+: p.code
  lookup : ∀ s, ∀ m ∈ p.reached ns context s, m.instruction = .lookup →
    (∃ text rest, m.stack = .name text :: .space :: rest ∧ m.calls = [.lookup text] ∧
        ∀ e s', ns.lookup text m.store = (.error e, s') → p.run ns context s = (.error e, s')) ∨
      (∀ text rest, m.stack ≠ .name text :: .space :: rest) ∧ m.calls = [] ∧
        p.run ns context s = (.error .stackUnderflow, m.store)
  other : ∀ s, ∀ m ∈ p.reached ns context s, m.instruction ≠ .lookup → m.calls = []
  stops : ∀ s, ∀ m ∈ p.reached ns context s, ∀ e s',
    m.execute p.config ns context = (.error e, s') →
      (∃ earlier, p.reached ns context s = earlier ++ [m]) ∧ p.run ns context s = (.error e, s')
  complete : ∀ s, p.config.contextSlot ≠ p.config.namespaceSlot →
    (∀ m ∈ p.reached ns context s, ∃ stack, (m.execute p.config ns context).1 = .ok stack) →
      (p.reached ns context s).map Moment.instruction = p.code

theorem Reference.namedCalls {r : Reference} {text : String} {free : IsFreeName text}
    (h : r.name = .named text free) : NamedCalls ns r text where
  evaluate st := by
    have hlookups : r.name.lookups = [.lookup text] := by rw [h]; rfl
    rw [← hlookups]
    exact r.evaluating_recorded st
  place st := by
    have hlookups : r.name.lookups = [.lookup text] := by rw [h]; rfl
    rw [← hlookups]
    exact r.place_recorded st
  failing st s e s' fails := by
    have hlookup : st.lookup ns text s = (.error e, s') := by simp only [State.lookup, fails]
    exact ⟨by rw [evaluate_named h, hlookup], by simp only [Reference.place, h, hlookup]⟩
  assign part producer w := by
    rw [assign_named h]
    simp only [Namespace.assignIn, Namespace.recorded]
    cases ns.assign text (part.get w).store <;> rfl
  signature part producer exit hput hproducer w := by
    rw [assign_named h]
    exact Namespace.assignIn_keeps hput hproducer text w

theorem Reference.reservedCalls {r : Reference} (h : r.name.isReserved = true) : ReservedCalls ns r where
  evaluate st := by
    rw [← VariableName.lookups_of_isReserved h]
    exact r.evaluating_recorded st
  place st := by
    rw [← VariableName.lookups_of_isReserved h]
    exact r.place_recorded st
  write st s p v hplace := by
    have hcontext : ∃ snapshot, p = .context snapshot := by
      cases hname : r.name with
      | named text free =>
        rw [hname] at h
        contradiction
      | _ =>
        simp only [Reference.place, hname] at hplace
        exact ⟨_, (Except.ok.inj hplace).symm⟩
    obtain ⟨snapshot, rfl⟩ := hcontext
    exact (Place.context snapshot).write_recorded v
  assign part producer w := by
    have hwritable : r.isWritable = false := by rw [isWritable, h]; rfl
    exact assign_reserved hwritable ns.recorded part producer w
  run config p context hcompile := by
    obtain ⟨-, exit, -, rfl⟩ := compile_eq_ok_iff.1 hcompile
    have hcode : .lookup ∉ (r.program config exit).code := VariableName.not_mem_code h exit _ _
    have hnone : (fun s => ((r.program config exit).reached ns context s).flatMap Moment.calls) =
        fun _ => [] := funext (Program.calls_eq_nil_of_not_mem hcode)
    rw [← hnone]
    exact (r.program config exit).run_recorded context

theorem Program.runCalls (p : Program) (context : TypedValue) : RunCalls ns p context where
  run := p.run_recorded context
  in_order := p.reached_prefix
  lookup s m hm hlookup := by
    cases hasks : m.asks with
    | some text =>
      obtain ⟨-, rest, hstack⟩ := Instruction.asks_eq_some_iff.1 hasks
      refine .inl ⟨text, rest, hstack, by rw [Moment.calls, hasks]; rfl, fun e s' fails => ?_⟩
      exact (run_of_execute_error hm (m.execute_of_lookup_error hasks fails)).2
    | none =>
      have hunderflow : m.execute p.config ns context = (.error .stackUnderflow, m.store) := by
        rw [Moment.asks, hlookup] at hasks
        rw [Moment.execute, hlookup]
        exact Instruction.execute_lookup_of_asks_eq_none hasks p.config ns context m.store
      have hstack (text : String) (rest : List Operand) : m.stack ≠ .name text :: .space :: rest := by
        intro hstack
        rw [Moment.asks, Instruction.asks_eq_some_iff.2 ⟨hlookup, rest, hstack⟩] at hasks
        contradiction
      exact .inr ⟨hstack, Moment.calls_of_asks_eq_none hasks, (run_of_execute_error hm hunderflow).2⟩
  other s m hm hother := Moment.calls_of_asks_eq_none (Moment.asks_of_ne hother)
  stops s m hm e s' fails := run_of_execute_error hm fails
  complete s distinct hok := by
    rcases p.run_cases ns context s with
      ⟨e, hslots, -, -⟩ | ⟨earlier, last, e, s', hreached, -, hlast, -⟩ | ⟨-, -, hreached, -, -⟩
    · rw [checkSlots_eq_ok distinct] at hslots
      contradiction
    · have hmem : last ∈ p.reached ns context s := by simp [hreached]
      obtain ⟨stack, hstack⟩ := hok last hmem
      rw [hlast] at hstack
      contradiction
    · exact hreached

/-- A namespace gets these calls and no others, and what it answers is handed back as it is. Reserved
references make no call. -/
theorem calls_pass_through (ns : Namespace σ) :
    (∀ (r : Reference) (text : String) (free : IsFreeName text), r.name = .named text free →
      NamedCalls ns r text) ∧
    (∀ (name : String) (snapshot : TypedValue) (v : Option Value),
      (Place.variable name snapshot).write ns v = ns.set name v ∧
        Makes (fun _ => [.set name v]) (ns.set name v)
          ((Place.variable name snapshot).write ns.recorded v)) ∧
    (∀ (p : Program) (context : TypedValue), RunCalls ns p context) ∧
    ∀ r : Reference, r.name.isReserved = true → ReservedCalls ns r :=
  ⟨fun _ _ _ h => Reference.namedCalls h,
    fun name snapshot v => ⟨rfl, (Place.variable name snapshot).write_recorded v⟩,
    fun p context => p.runCalls context, fun _ h => Reference.reservedCalls h⟩

theorem calls_pass_through_offline :
    -- A namespace that answers nothing is asked for the first name only.
    let x : Reference := .ofIdentifier ⟨.named "x" (by decide), .unlocated⟩
    let p : Program := ⟨"", [.load 2, .push "x", .lookup, .load 2, .push "y", .lookup], .any, {}⟩
    let ns : Namespace Unit := .offline
    let failure : EvalError := .namespaceFailure "store offline while resolving `x`"
    x.name = .named "x" (by decide) ∧
      x.evaluating ns.recorded ⟨.null, [], {}⟩ ⟨(), []⟩ =
        ((.error failure, x), ⟨(), [.lookup "x"]⟩) ∧
      p.run ns.recorded .null ⟨(), []⟩ = (.error failure, ⟨(), [.lookup "x"]⟩) := by
  intro x p ns failure
  obtain ⟨hnamed, -, hrun, -⟩ := calls_pass_through ns
  have hevaluate : x.evaluating ns.recorded ⟨.null, [], {}⟩ ⟨(), []⟩ =
      ((.error failure, x), ⟨(), [.lookup "x"]⟩) :=
    (hnamed x "x" (by decide) rfl).evaluate ⟨.null, [], {}⟩ ⟨(), []⟩
  have hasked : p.run ns.recorded .null ⟨(), []⟩ = (.error failure, ⟨(), [.lookup "x"]⟩) :=
    (hrun p .null).run ⟨(), []⟩
  exact ⟨rfl, hevaluate, hasked⟩

end Sigil
