import Sigil.Binding
import Sigil.Proofs.Value.Conversion

/-! What a JSON tree stands for as a binding: a host object when the tree itself names a type, and otherwise the
value of the tree. -/

namespace Sigil

structure HostObject.MadeFrom (o : HostObject) (typeName : String) (members : List (String × Json)) :
    Prop where
  name : o.type.name = typeName
  restricted_iff : o.type.visibility = .restricted ↔
    Entries.find? Binding.publicKey members = some (.bool false)
  members : o.members = some (members.filter fun m => m.1 != Binding.typeKey && m.1 != Binding.publicKey)

namespace Binding

def typeMember? (j : Json) : Option Json := j.members?.bind (Entries.find? typeKey)

theorem visibility_eq_restricted_iff {members : List (String × Json)} :
    visibility members = .restricted ↔ Entries.find? publicKey members = some (.bool false) := by
  rw [visibility]
  split
  · next h => exact iff_of_true rfl h
  · next h => exact iff_of_false (fun heq => nomatch heq) h

theorem hostObject_madeFrom (serial : Nat) (typeName : String) (members : List (String × Json)) :
    (hostObject serial typeName members).MadeFrom typeName members where
  name := rfl
  restricted_iff := visibility_eq_restricted_iff
  members := by rw [hostObject, Entries.erase, Entries.erase, List.filter_filter]; simp only [Bool.and_comm]

theorem ofJson_of_typeMember?_eq_none {j : Json} (h : typeMember? j = none) (serial : Nat) :
    ofJson serial j = ofPlain j := by
  cases j with
  | object members =>
    have hfind : Entries.find? typeKey members = none := h
    simp only [ofJson, hfind]
  | _ => rfl

theorem exists_of_typeMember?_eq_some {j k : Json} (h : typeMember? j = some k) :
    ∃ members, j = .object members ∧ Entries.find? typeKey members = some k := by
  cases j with
  | object members => exact ⟨members, rfl, h⟩
  | _ => contradiction

theorem ofJson_of_string {members : List (String × Json)} {typeName : String}
    (h : Entries.find? typeKey members = some (.string typeName)) (serial : Nat) :
    ofJson serial (.object members) = .ok (.ofValue (.object (hostObject serial typeName members))) := by
  simp only [ofJson, h]

theorem ofJson_of_not_string {j k : Json} (h : typeMember? j = some k) (hk : ∀ s, k ≠ .string s)
    (serial : Nat) : ofJson serial j = .error .typeNotString := by
  obtain ⟨members, rfl, hfind⟩ := exists_of_typeMember?_eq_some h
  cases k with
  | string s => exact absurd rfl (hk s)
  | _ => simp only [ofJson, hfind]

theorem ofPlain_eq_ok_iff {j : Json} {t : TypedValue} :
    ofPlain j = .ok t ↔ ∃ v, Value.ofJson j = .ok v ∧ ⟨v, v.map Value.descriptor⟩ = t := by
  rw [ofPlain]
  cases Value.ofJson j <;> simp [TypedValue.ofOption_eq]

theorem ofPlain_eq_error_iff {j : Json} {e : BindingError} :
    ofPlain j = .error e ↔ ∃ e', Value.ofJson j = .error e' ∧ .value e' = e := by
  rw [ofPlain]
  cases Value.ofJson j with
  | ok v => simp
  | error e' =>
    exact ⟨fun h => ⟨e', rfl, Except.error.inj h⟩, fun ⟨_, he, h⟩ => Except.error.inj he ▸ h ▸ rfl⟩

theorem ofJson_eq_ok_iff {serial : Nat} {j : Json} {t : TypedValue} :
    ofJson serial j = .ok t ↔
      (∃ members typeName, j = .object members ∧
        Entries.find? typeKey members = some (.string typeName) ∧
        .ofValue (.object (hostObject serial typeName members)) = t) ∨
      typeMember? j = none ∧ ∃ v, Value.ofJson j = .ok v ∧ ⟨v, v.map Value.descriptor⟩ = t := by
  constructor
  · intro h
    cases htype : typeMember? j with
    | none =>
      rw [ofJson_of_typeMember?_eq_none htype] at h
      exact .inr ⟨rfl, ofPlain_eq_ok_iff.1 h⟩
    | some k =>
      obtain ⟨members, rfl, hfind⟩ := exists_of_typeMember?_eq_some htype
      cases k with
      | string typeName =>
        rw [ofJson_of_string hfind] at h
        exact .inl ⟨members, typeName, rfl, hfind, Except.ok.inj h⟩
      | _ => rw [ofJson_of_not_string htype nofun] at h; contradiction
  · rintro (⟨members, typeName, rfl, hfind, rfl⟩ | ⟨htype, hvalue⟩)
    · exact ofJson_of_string hfind serial
    · rw [ofJson_of_typeMember?_eq_none htype, ofPlain_eq_ok_iff]
      exact hvalue

theorem ofJson_eq_error_iff {serial : Nat} {j : Json} {e : BindingError} :
    ofJson serial j = .error e ↔
      (∃ k, typeMember? j = some k ∧ (∀ s, k ≠ .string s) ∧ .typeNotString = e) ∨
      typeMember? j = none ∧ ∃ e', Value.ofJson j = .error e' ∧ .value e' = e := by
  constructor
  · intro h
    cases htype : typeMember? j with
    | none =>
      rw [ofJson_of_typeMember?_eq_none htype] at h
      exact .inr ⟨rfl, ofPlain_eq_error_iff.1 h⟩
    | some k =>
      obtain ⟨members, rfl, hfind⟩ := exists_of_typeMember?_eq_some htype
      cases k with
      | string typeName => rw [ofJson_of_string hfind] at h; contradiction
      | _ =>
        rw [ofJson_of_not_string htype nofun] at h
        exact .inl ⟨_, rfl, nofun, Except.error.inj h⟩
  · rintro (⟨k, htype, hk, rfl⟩ | ⟨htype, hvalue⟩)
    · exact ofJson_of_not_string htype hk serial
    · rw [ofJson_of_typeMember?_eq_none htype, ofPlain_eq_error_iff]
      exact hvalue

theorem ofJson_eq_error_of_eq_error {serial : Nat} {j : Json} {e : BindingError}
    (h : ofJson serial j = .error e) (other : Nat) : ofJson other j = .error e :=
  ofJson_eq_error_iff.2 (ofJson_eq_error_iff.1 h)

theorem exists_ofJson_eq_ok {serial : Nat} {j : Json} {t : TypedValue} (h : ofJson serial j = .ok t)
    (other : Nat) : ∃ t, ofJson other j = .ok t := by
  cases hother : ofJson other j with
  | ok t => exact ⟨t, rfl⟩
  | error e => rw [ofJson_eq_error_of_eq_error hother serial] at h; contradiction

/-- What a JSON tree stands for as a binding, with this serial for its host object. -/
structure Exact (serial : Nat) (j : Json) : Prop where
  hostObject : ∀ typeName, typeMember? j = some (.string typeName) → ∃ members o, j = .object members ∧
    o.MadeFrom typeName members ∧ ofJson serial j = .ok ⟨some (.object o), some (.object o.type)⟩
  typeNotString : ∀ k, typeMember? j = some k → (∀ s, k ≠ .string s) →
    ofJson serial j = .error .typeNotString
  value : typeMember? j = none →
    (∀ v, Value.ofJson j = .ok v → ofJson serial j = .ok ⟨v, v.map Value.descriptor⟩) ∧
    ∀ e, Value.ofJson j = .error e → ofJson serial j = .error (.value e)
  null : Value.ofJson j = .ok none ↔ j = .null
  shape : ∀ v, Value.ofJson j = .ok (some v) ↔ Json.Shape j v
  plain : ∀ v, Value.ofJson j = .ok (some v) → v.Plain
  hostObject_iff : (∃ t o, ofJson serial j = .ok t ∧ t.value = some (.object o)) ↔
    ∃ typeName, typeMember? j = some (.string typeName)
  declared : ∀ t, ofJson serial j = .ok t → t.declared = t.value.map Value.descriptor

theorem ofJson_exact (serial : Nat) (j : Json) : Exact serial j where
  hostObject := by
    intro typeName htype
    obtain ⟨members, rfl, hfind⟩ := exists_of_typeMember?_eq_some htype
    exact ⟨members, _, rfl, hostObject_madeFrom serial typeName members, ofJson_of_string hfind serial⟩
  typeNotString := fun k htype hk => ofJson_of_not_string htype hk serial
  value := by
    intro htype
    rw [ofJson_of_typeMember?_eq_none htype]
    exact ⟨fun v hv => ofPlain_eq_ok_iff.2 ⟨v, hv, rfl⟩, fun e he => ofPlain_eq_error_iff.2 ⟨e, he, rfl⟩⟩
  null := Value.ofJson_eq_ok_none_iff
  shape _ := Value.ofJson_eq_ok_some_iff
  plain _ hv := (Value.ofJson_eq_ok_some_iff.1 hv).plain
  hostObject_iff := by
    constructor
    · rintro ⟨t, o, h, ho⟩
      rcases ofJson_eq_ok_iff.1 h with ⟨members, typeName, rfl, hfind, -⟩ | ⟨-, v, hv, rfl⟩
      · exact ⟨typeName, hfind⟩
      · cases v with
        | none => contradiction
        | some v =>
          obtain rfl : v = .object o := Option.some.inj ho
          exact absurd .self ((Value.ofJson_eq_ok_some_iff.1 hv).plain o)
    · rintro ⟨typeName, htype⟩
      obtain ⟨members, rfl, hfind⟩ := exists_of_typeMember?_eq_some htype
      exact ⟨_, _, ofJson_of_string hfind serial, rfl⟩
  declared := by
    intro t h
    rcases ofJson_eq_ok_iff.1 h with ⟨members, typeName, rfl, -, rfl⟩ | ⟨-, v, -, rfl⟩ <;> rfl

end Binding
end Sigil
