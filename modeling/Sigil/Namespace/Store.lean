import Sigil.Dictionary
import Sigil.Namespace.Basic

/-!
The standard namespace: bindings in memory, writable or fixed. On fixed bindings every write fails
without running its right side. An assignment keeps the declared type of what it stores; setting a
value declares the value's own type.
-/

namespace Sigil

structure Store where
  bindings : Dictionary TypedValue := .empty
  readOnly : Bool := false

namespace Store

def ofList (bindings : List (String × TypedValue)) (readOnly : Bool) : Store :=
  ⟨.ofList bindings, readOnly⟩

def find? (s : Store) (name : String) : Option TypedValue := s.bindings.find? name

def bind (s : Store) (name : String) (t : TypedValue) : Store :=
  { s with bindings := s.bindings.insert name t }

def names (s : Store) : List String := s.bindings.names

@[simp] theorem find?_bind_self (s : Store) (name : String) (t : TypedValue) :
    (s.bind name t).find? name = some t := s.bindings.find?_insert_self name t

theorem find?_bind_of_ne (s : Store) {name other : String} (h : other ≠ name) (t : TypedValue) :
    (s.bind name t).find? other = s.find? other := s.bindings.find?_insert_of_ne h t

theorem find?_bind (s : Store) (name other : String) (t : TypedValue) :
    (s.bind name t).find? other = if name = other then some t else s.find? other := by
  split
  · next heq => rw [heq, find?_bind_self]
  · next hne => exact s.find?_bind_of_ne (Ne.symm hne) t

theorem mem_names_iff (s : Store) {name : String} :
    name ∈ s.names ↔ (s.find? name).isSome = true := s.bindings.mem_names_iff

theorem names_pairwise (s : Store) : s.names.Pairwise (· < ·) := s.bindings.names_pairwise

@[simp] theorem readOnly_bind (s : Store) (name : String) (t : TypedValue) :
    (s.bind name t).readOnly = s.readOnly := rfl

end Store

def Namespace.standard : Namespace Store where
  lookup name s := (.ok (s.find? name), s)
  assign name s :=
    if s.readOnly then .settled (.error (.readOnlyNamespace name)) s
    else .awaiting s fun produced s =>
      match produced with
      | .ok t => (.ok t, s.bind name t)
      | .error e => (.error e, s)
  set name v s :=
    if s.readOnly then (.error (.readOnlyNamespace name), s)
    else (.ok (), s.bind name (.ofOption v))

namespace Namespace

theorem standard_assign_of_readOnly {s : Store} (h : s.readOnly = true) (name : String) :
    standard.assign name s = .settled (.error (.readOnlyNamespace name)) s := if_pos h

theorem standard_assign_of_writable {s : Store} (h : s.readOnly = false) (name : String) :
    ∃ finish, standard.assign name s = .awaiting s finish ∧
      (∀ t s, finish (.ok t) s = (.ok t, s.bind name t)) ∧
      ∀ e s, finish (.error e) s = (.error e, s) :=
  ⟨_, if_neg (Bool.eq_false_iff.1 h), fun _ _ => rfl, fun _ _ => rfl⟩

end Namespace
end Sigil
