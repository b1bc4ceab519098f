import Mathlib.Data.Finset.Basic
import Mathlib.Data.Fintype.EquivFin
import Sigil.Proofs.State.Moves
import Sigil.Reference.Evaluation

/-! Scopes by identity. Context objects are held at addresses, an object that is new to a stack of scopes at
an address where nothing of it is held. A state is nested exactly when the active object is held elsewhere than
the root object, wherever new objects come to lie. -/

namespace Sigil

structure Cell where
  address : Nat
  object : TypedValue

structure Cells where
  root : Cell
  scopes : List Cell := []

namespace Cells

def addresses (c : Cells) : List Nat := c.root.address :: c.scopes.map Cell.address

def active (c : Cells) : Cell := c.scopes.head?.getD c.root

/-- A move. A scope with an object of its own takes any address that is free; one that goes back to the root
object holds that very object again. -/
inductive Step : Cells → Move → Cells → Prop
  | push (c : Cells) (object : TypedValue) {address : Nat} (fresh : address ∉ c.addresses) :
    Step c (.push object) { c with scopes := ⟨address, object⟩ :: c.scopes }
  | pushRoot (c : Cells) : Step c .pushRoot { c with scopes := c.root :: c.scopes }
  | pop (c : Cells) : Step c .pop { c with scopes := c.scopes.tail }

inductive Run : Cells → List Move → Cells → Prop
  | nil (c : Cells) : Run c [] c
  | cons {c c' c'' : Cells} {m : Move} {moves : List Move} (first : Step c m c')
    (rest : Run c' moves c'') : Run c (m :: moves) c''

def Sound (c : Cells) : Prop := ∀ cell ∈ c.scopes, cell.address = c.root.address → cell = c.root

def scope (root cell : Cell) : Scope :=
  if cell.address = root.address then .root else .nested cell.object

def state (config : Config) (c : Cells) : State := ⟨c.root.object, c.scopes.map (scope c.root), config⟩

theorem scope_root (root : Cell) : scope root root = .root := if_pos rfl

theorem scope_of_fresh {c : Cells} {address : Nat} (fresh : address ∉ c.addresses) (object : TypedValue) :
    scope c.root ⟨address, object⟩ = .nested object :=
  if_neg fun heq : address = c.root.address => fresh (heq ▸ List.mem_cons_self)

theorem Step.state_eq {c c' : Cells} {m : Move} (h : Step c m c') (config : Config) :
    c'.state config = m.apply (c.state config) := by
  cases h with
  | push object fresh =>
    simp only [state, List.map_cons, scope_of_fresh fresh]
    rfl
  | pushRoot =>
    simp only [state, List.map_cons, scope_root]
    rfl
  | pop =>
    simp only [state, List.map_tail]
    rfl

theorem Step.root_eq {c c' : Cells} {m : Move} (h : Step c m c') : c'.root = c.root := by
  cases h <;> rfl

theorem Step.sound {c c' : Cells} {m : Move} (h : Step c m c') (hc : c.Sound) : c'.Sound := by
  intro cell hcell haddress
  cases h with
  | push object fresh =>
    rcases List.mem_cons.1 hcell with rfl | hmem
    · exact absurd (List.mem_cons.2 (.inl haddress)) fresh
    · exact hc cell hmem haddress
  | pushRoot =>
    rcases List.mem_cons.1 hcell with rfl | hmem
    · rfl
    · exact hc cell hmem haddress
  | pop => exact hc cell (List.mem_of_mem_tail hcell) haddress

theorem Run.state_eq {c c' : Cells} {moves : List Move} (h : Run c moves c') (config : Config) :
    c'.state config = (c.state config).after moves := by
  induction h with
  | nil => rfl
  | cons first rest ih => rw [ih, first.state_eq, State.after_cons]

theorem Run.root_eq {c c' : Cells} {moves : List Move} (h : Run c moves c') : c'.root = c.root := by
  induction h with
  | nil => rfl
  | cons first rest ih => rw [ih, first.root_eq]

theorem Run.sound {c c' : Cells} {moves : List Move} (h : Run c moves c') (hc : c.Sound) : c'.Sound := by
  induction h with
  | nil => exact hc
  | cons first rest ih => exact ih (first.sound hc)

theorem exists_step (c : Cells) (m : Move) : ∃ c', Step c m c' := by
  cases m with
  | push object =>
    obtain ⟨address, fresh⟩ := Infinite.exists_notMem_finset c.addresses.toFinset
    exact ⟨_, .push c object fun h => fresh (List.mem_toFinset.2 h)⟩
  | pushRoot => exact ⟨_, .pushRoot c⟩
  | pop => exact ⟨_, .pop c⟩

theorem exists_run (c : Cells) (moves : List Move) : ∃ c', Run c moves c' := by
  induction moves generalizing c with
  | nil => exact ⟨c, .nil c⟩
  | cons m moves ih =>
    obtain ⟨c', first⟩ := exists_step c m
    obtain ⟨c'', rest⟩ := ih c'
    exact ⟨c'', .cons first rest⟩

theorem active_state {c : Cells} (hc : c.Sound) (config : Config) :
    (c.state config).active = c.active.object := by
  rcases c with ⟨root, scopes⟩
  cases scopes with
  | nil => rfl
  | cons cell scopes =>
    by_cases haddress : cell.address = root.address
    · have hroot : cell = root := hc cell List.mem_cons_self haddress
      subst hroot
      simp only [state, List.map_cons, scope_root]
      rfl
    · simp only [state, List.map_cons, scope, if_neg haddress]
      rfl

theorem isNested_state_iff (c : Cells) (config : Config) :
    (c.state config).isNested = true ↔ c.active.address ≠ c.root.address := by
  rcases c with ⟨root, scopes⟩
  cases scopes with
  | nil => simp [state, State.isNested, active]
  | cons cell scopes =>
    by_cases haddress : cell.address = root.address <;>
      simp [state, State.isNested, active, scope, haddress]

theorem Run.active_after {cell : Cell} {moves : List Move} {c : Cells} (h : Run ⟨cell, []⟩ moves c)
    (config : Config) :
    let st := (⟨cell.object, [], config⟩ : State).after moves
    c.root = cell ∧ c.active.object = st.active ∧ (c.active.address ≠ cell.address ↔ st.isNested = true) := by
  intro st
  have hstart : (⟨cell, []⟩ : Cells).Sound := fun _ hmem => absurd hmem List.not_mem_nil
  have hstate : c.state config = st := h.state_eq config
  have hroot : c.root = cell := h.root_eq
  rw [← hstate, active_state (h.sound hstart), isNested_state_iff, hroot]
  exact ⟨rfl, rfl, Iff.rfl⟩

end Cells

/-- These moves entered the scope, and left every scope entered later, but not this one. -/
def Move.Entered (moves : List Move) (scope : Scope) : Prop :=
  ∃ before m later, moves = before ++ m :: later ∧ m.scope? = some scope ∧ returns 0 later = true

namespace State

theorem after_of_entered {moves : List Move} {scope : Scope} (h : Move.Entered moves scope) (st : State) :
    ∃ scopes, st.after moves = ⟨st.root, scope :: scopes, (st.after moves).config⟩ := by
  obtain ⟨before, m, later, rfl, hscope, hlater⟩ := h
  rw [after_append, after_cons, after_eq_self hlater, apply_of_scope? hscope, root_after]
  exact ⟨_, rfl⟩

theorem of_entered_nested {moves : List Move} {object : TypedValue} (h : Move.Entered moves (.nested object))
    (st : State) : (st.after moves).active = object ∧ (st.after moves).isNested = true ∧
      (st.after moves).innermost = some object := by
  obtain ⟨scopes, hst⟩ := after_of_entered h st
  rw [hst]
  exact ⟨rfl, rfl, rfl⟩

theorem of_entered_root {moves : List Move} (h : Move.Entered moves .root) (st : State) :
    (st.after moves).active = st.root ∧ (st.after moves).isNested = false ∧
      (st.after moves).innermost = some st.root := by
  obtain ⟨scopes, hst⟩ := after_of_entered h st
  rw [hst]
  exact ⟨rfl, rfl, rfl⟩

theorem entered_of_scopes {st : State} (hstart : st.scopes = []) {moves : List Move} {scope : Scope}
    {scopes : List Scope} (h : (st.after moves).scopes = scope :: scopes) : Move.Entered moves scope := by
  obtain ⟨before, m, later, hmoves, hscope, hlater, -⟩ := exists_entered hstart moves h
  exact ⟨before, m, later, hmoves, hscope, hlater⟩

theorem of_not_entered {st : State} (hstart : st.scopes = []) {moves : List Move}
    (h : ∀ scope, ¬Move.Entered moves scope) :
    (st.after moves).active = st.root ∧ (st.after moves).isNested = false ∧
      (st.after moves).innermost = none ∧ (st.after moves).pop = st.after moves := by
  have hroot : (st.after moves).root = st.root := root_after st moves
  have hscopes : (st.after moves).scopes = [] := by
    cases hscopes : (st.after moves).scopes with
    | nil => rfl
    | cons scope scopes => exact absurd (entered_of_scopes hstart hscopes) (h scope)
  refine ⟨?_, ?_, ?_, ?_⟩
  · simp only [active, hscopes, hroot]
  · simp only [isNested, hscopes]
  · simp only [innermost, hscopes]
  · rw [pop, hscopes, List.tail_nil, ← hscopes]

theorem isNested_after_iff {st : State} (hstart : st.scopes = []) (moves : List Move) :
    (st.after moves).isNested = true ↔ ∃ object, Move.Entered moves (.nested object) := by
  constructor
  · intro h
    cases hscopes : (st.after moves).scopes with
    | nil => simp [isNested, hscopes] at h
    | cons scope scopes =>
      cases scope with
      | root => simp [isNested, hscopes] at h
      | nested object => exact ⟨object, entered_of_scopes hstart hscopes⟩
  · rintro ⟨object, h⟩
    exact (of_entered_nested h st).2.1

theorem evaluate_this {σ : Type} {r : Reference} (h : r.name = .this) (ns : Namespace σ) (st : State)
    (s : σ) : r.evaluate ns st s = ⟨.ok st.active, s,
      ⟨r.ident, if st.isNested then r.exit else some (exitDescriptor st.root.value)⟩⟩ := by
  cases hnested : st.isNested with
  | true => rw [Reference.evaluate_nested h hnested, if_pos rfl]
  | false =>
    rw [Reference.evaluate_context (.inr ⟨h, hnested⟩), active_of_not_nested hnested, if_neg (by simp)]
    rfl

/-- Scopes are a stack over the root object, and a reference to `#this` records in the states that are not
nested. Nested means that the active object is held elsewhere than the root object, whatever its value. -/
theorem scopes_are_a_stack (root : TypedValue) (config : Config) (moves : List Move) :
    let st := (⟨root, [], config⟩ : State).after moves
    st.root = root ∧
      (∀ object, Move.Entered moves (.nested object) →
        st.active = object ∧ st.isNested = true ∧ st.innermost = some object) ∧
      (Move.Entered moves .root →
        st.active = root ∧ st.isNested = false ∧ st.innermost = some root) ∧
      ((∀ scope, ¬Move.Entered moves scope) →
        st.active = root ∧ st.isNested = false ∧ st.innermost = none ∧ st.pop = st) ∧
      (st.isNested = true ↔ ∃ object, Move.Entered moves (.nested object)) ∧
      (∀ cell : Cell, cell.object = root →
        (∃ c, Cells.Run ⟨cell, []⟩ moves c) ∧
          ∀ c, Cells.Run ⟨cell, []⟩ moves c →
            c.root = cell ∧ c.active.object = st.active ∧
              (c.active.address ≠ cell.address ↔ st.isNested = true)) ∧
      (∀ (other : State) (more : List Move), Move.returns 0 more = true → other.after more = other) ∧
      ∀ {σ : Type} (r : Reference) (ns : Namespace σ) (s : σ), r.name = .this →
        r.evaluate ns st s = ⟨.ok st.active, s,
          ⟨r.ident, if st.isNested then r.exit else some (exitDescriptor root.value)⟩⟩ := by
  intro st
  have hroot : st.root = root := root_after ⟨root, [], config⟩ moves
  refine ⟨hroot, fun object h => of_entered_nested h _, fun h => of_entered_root h _, of_not_entered rfl,
    isNested_after_iff rfl moves, ?_, fun other more h => after_eq_self h other, fun r ns s hr => ?_⟩
  · rintro cell rfl
    exact ⟨Cells.exists_run _ moves, fun c hc => hc.active_after config⟩
  · rw [evaluate_this hr, hroot]

theorem scopes_are_a_stack_equal_value :
    -- A scope with the root object's own value is nested all the same.
    let root : TypedValue := .ofValue (.int 1)
    let moves : List Move := [.pop, .push .null, .pop, .push root, .pushRoot, .pop]
    let st := (⟨root, [], {}⟩ : State).after moves
    Move.Entered moves (.nested root) ∧ st.active = root ∧ st.isNested = true ∧
      ∃ c, Cells.Run ⟨⟨0, root⟩, []⟩ moves c ∧ c.active.object = c.root.object ∧
        c.active.address ≠ c.root.address ∧
        (⟨root, [.root], {}⟩ : State).after [.push .null, .pop] = ⟨root, [.root], {}⟩ := by
  intro root moves st
  have hentered : Move.Entered moves (.nested root) :=
    ⟨[.pop, .push .null, .pop], .push root, [.pushRoot, .pop], rfl, rfl, rfl⟩
  obtain ⟨-, hactive, -, -, -, hcells, hreturns, -⟩ := scopes_are_a_stack root {} moves
  obtain ⟨hobject, hisNested, -⟩ := hactive root hentered
  obtain ⟨⟨c, hc⟩, hall⟩ := hcells ⟨0, root⟩ rfl
  obtain ⟨hroot, hheld, hnested⟩ := hall c hc
  refine ⟨hentered, hobject, hisNested, c, hc, ?_, ?_, hreturns _ _ rfl⟩
  · rw [hheld, hroot]
    exact hobject
  · rw [hroot]
    exact hnested.2 hisNested

end State
end Sigil
