import Mathlib.Data.List.Basic
import Sigil.State

/-! Entering and leaving scopes. Moves that never go below where they started and end there change nothing, so
the active object is that of the innermost scope that was entered and not left. -/

namespace Sigil

inductive Move where
  | push (object : TypedValue)
  | pushRoot
  | pop

namespace Move

def apply (st : State) : Move → State
  | .push object => st.push object
  | .pushRoot => st.pushRoot
  | .pop => st.pop

def scope? : Move → Option Scope
  | .push object => some (.nested object)
  | .pushRoot => some .root
  | .pop => none

def returns : Nat → List Move → Bool
  | n, [] => n == 0
  | n, .push _ :: moves => returns (n + 1) moves
  | n, .pushRoot :: moves => returns (n + 1) moves
  | 0, .pop :: _ => false
  | n + 1, .pop :: moves => returns n moves

theorem returns_append {a b : Nat} {p q : List Move} (hp : returns a p = true) (hq : returns b q = true) :
    returns (a + b) (p ++ q) = true := by
  induction p generalizing a with
  | nil =>
    obtain rfl : a = 0 := by simpa [returns] using hp
    rwa [Nat.zero_add]
  | cons m p ih =>
    cases m with
    | pop =>
      cases a with
      | zero => simp [returns] at hp
      | succ a =>
        rw [Nat.succ_add]
        exact ih (a := a) hp
    | _ =>
      simp only [List.cons_append, returns, Nat.add_right_comm a b 1]
      exact ih (a := a + 1) hp

end Move

namespace State

def after (st : State) (moves : List Move) : State := moves.foldl Move.apply st

@[simp] theorem after_nil (st : State) : st.after [] = st := rfl

@[simp] theorem after_cons (st : State) (m : Move) (moves : List Move) :
    st.after (m :: moves) = (m.apply st).after moves := rfl

theorem after_append (st : State) (moves more : List Move) :
    st.after (moves ++ more) = (st.after moves).after more := List.foldl_append

theorem root_apply (st : State) (m : Move) : (m.apply st).root = st.root := by
  cases m <;> rfl

theorem root_after (st : State) (moves : List Move) : (st.after moves).root = st.root := by
  induction moves generalizing st with
  | nil => rfl
  | cons m moves ih => rw [after_cons, ih, root_apply]

theorem apply_of_scope? {m : Move} {scope : Scope} (h : m.scope? = some scope) (st : State) :
    m.apply st = { st with scopes := scope :: st.scopes } := by
  cases m <;> cases h <;> rfl

theorem after_of_returns {moves : List Move} (top : List Scope) {base : List Scope}
    (h : Move.returns top.length moves = true) (root : TypedValue) (config : Config) :
    (⟨root, top ++ base, config⟩ : State).after moves = ⟨root, base, config⟩ := by
  induction moves generalizing top with
  | nil =>
    have hempty : top = [] := by simpa [Move.returns] using h
    rw [hempty]
    rfl
  | cons m moves ih =>
    cases m with
    | push object => exact ih (.nested object :: top) h
    | pushRoot => exact ih (.root :: top) h
    | pop =>
      cases top with
      | nil => simp [Move.returns] at h
      | cons scope top => exact ih top h

theorem after_eq_self {moves : List Move} (h : Move.returns 0 moves = true) (st : State) :
    st.after moves = st := after_of_returns [] h st.root st.config

theorem exists_entered {st : State} (hstart : st.scopes = []) (moves : List Move) {scope : Scope}
    {scopes : List Scope} (h : (st.after moves).scopes = scope :: scopes) :
    ∃ before m later, moves = before ++ m :: later ∧ m.scope? = some scope ∧
      Move.returns 0 later = true ∧ (st.after before).scopes = scopes := by
  -- The scope below the innermost one was entered before it, so the induction is on how many moves there are.
  induction hlength : moves.length using Nat.strongRecOn generalizing moves scope scopes with
  | ind n ih =>
    subst hlength
    rcases List.eq_nil_or_concat moves with rfl | ⟨moves, m, rfl⟩
    · rw [after_nil, hstart] at h
      contradiction
    · rw [List.concat_eq_append, after_append] at h
      cases hscope : m.scope? with
      | some entered =>
        rw [after_cons, after_nil, apply_of_scope? hscope] at h
        obtain ⟨rfl, hbelow⟩ := List.cons.inj h
        exact ⟨moves, m, [], List.concat_eq_append, hscope, rfl, hbelow⟩
      | none =>
        obtain rfl : m = .pop := by cases m <;> first | rfl | contradiction
        obtain ⟨left, hleft⟩ : ∃ left, (st.after moves).scopes = left :: scope :: scopes := by
          cases hscopes : (st.after moves).scopes with
          | nil => simp [Move.apply, pop, hscopes] at h
          | cons left below =>
            simp only [after_cons, after_nil, Move.apply, pop, hscopes, List.tail_cons] at h
            exact ⟨left, by rw [h]⟩
        obtain ⟨before, enter, later, rfl, henter, hlater, hbefore⟩ :=
          ih moves.length (by simp) moves hleft rfl
        obtain ⟨before, enter', later', rfl, henter', hlater', hbefore'⟩ :=
          ih before.length (by simp) before hbefore rfl
        refine ⟨before, enter', later' ++ (enter :: later ++ [.pop]), by simp, henter', ?_, hbefore'⟩
        have hinside : Move.returns 1 (later ++ [.pop]) = true := Move.returns_append (b := 1) hlater rfl
        refine Move.returns_append (a := 0) (b := 0) hlater' ?_
        cases enter with
        | pop => contradiction
        | _ => exact hinside

end State
end Sigil
