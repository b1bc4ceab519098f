import Sigil.Config.Basic
import Sigil.Namespace.Store

/-!
What an evaluation runs against besides the namespace: the root context object, the scopes entered,
and the settings. A scope either has an object of its own or goes back to the root object; only the
innermost scope counts, and an evaluation is nested exactly when that one has an object of its own.
-/

namespace Sigil

inductive Scope where
  | root
  | nested (object : TypedValue)

structure State where
  root : TypedValue
  scopes : List Scope := []  -- the innermost first
  config : Config := {}

namespace State

def active (st : State) : TypedValue :=
  match st.scopes with
  | .nested object :: _ => object
  | _ => st.root

def isNested (st : State) : Bool :=
  match st.scopes with
  | .nested _ :: _ => true
  | _ => false

def push (st : State) (object : TypedValue) : State :=
  { st with scopes := .nested object :: st.scopes }

def pushRoot (st : State) : State := { st with scopes := .root :: st.scopes }

def innermost (st : State) : Option TypedValue :=
  match st.scopes with
  | [] => none
  | _ => some st.active

def pop (st : State) : State := { st with scopes := st.scopes.tail }

def lookup {σ : Type} (st : State) (ns : Namespace σ) (name : String) : Attempt σ TypedValue := fun s =>
  match ns.lookup name s with
  | (.error e, s) => (.error e, s)
  | (.ok (some t), s) => (.ok t, s)
  | (.ok none, s) =>
    match st.config.unbound with
    | .lenient => (.ok .null, s)
    | .strict => (.error (.unboundVariable name), s)

@[simp] theorem active_push (st : State) (t : TypedValue) : (st.push t).active = t := rfl

@[simp] theorem isNested_push (st : State) (t : TypedValue) : (st.push t).isNested = true := rfl

@[simp] theorem active_pushRoot (st : State) : st.pushRoot.active = st.root := rfl

@[simp] theorem isNested_pushRoot (st : State) : st.pushRoot.isNested = false := rfl

@[simp] theorem pop_push (st : State) (t : TypedValue) : (st.push t).pop = st := rfl

@[simp] theorem pop_pushRoot (st : State) : st.pushRoot.pop = st := rfl

theorem active_of_not_nested {st : State} (h : st.isNested = false) : st.active = st.root := by
  unfold isNested at h
  unfold active
  split <;> simp_all

theorem lookup_standard_store (st : State) (name : String) (s : Store) :
    (st.lookup .standard name s).2 = s := by
  simp only [lookup, Namespace.standard]
  cases s.find? name with
  | some t => rfl
  | none => cases st.config.unbound <;> rfl

end State
end Sigil
