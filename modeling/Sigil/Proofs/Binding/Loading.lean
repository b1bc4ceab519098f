import Sigil.Proofs.Binding.Meaning
import Sigil.Proofs.Dictionary.Lookup
import Sigil.Proofs.Json.Members

/-! The bindings of a JSON object: one for each name, or none at all and the least name that fails. Both are
described by what stands under each name, whatever list of members it was found in. -/

namespace Sigil.Bindings

/-- The dictionary binds the names that something stands under, each to what that stands for. The serials go
up with the names. -/
structure Loaded (serial : Nat) (under : String → Option Json) (d : Dictionary TypedValue) : Prop where
  mem_names_iff : ∀ name, name ∈ d.names ↔ (under name).isSome = true
  binding : ∀ i name, d.names[i]? = some name →
    ∃ j t, under name = some j ∧ d.find? name = some t ∧ Binding.ofJson (serial + i) j = .ok t

/-- What stands under the name is refused, and nothing that stands under a lesser name. -/
structure FirstFailure (under : String → Option Json) (name : String) (e : BindingError) : Prop where
  refused : ∃ j, under name = some j ∧ ∀ serial, Binding.ofJson serial j = .error e
  least : ∀ other j, under other = some j → other < name →
    ∀ serial, ∃ t, Binding.ofJson serial j = .ok t

variable {serial : Nat} {members : List (String × Json)}

theorem ofMembers_eq_ok {bindings : List (String × TypedValue)}
    (h : ofMembers serial members = .ok bindings) :
    bindings.map Prod.fst = members.map Prod.fst ∧ ∀ i name t, bindings[i]? = some (name, t) →
      ∃ j, members[i]? = some (name, j) ∧ Binding.ofJson (serial + i) j = .ok t := by
  induction members generalizing serial bindings with
  | nil =>
    cases h
    exact ⟨rfl, fun i name t hi => by simp at hi⟩
  | cons m members ih =>
    rw [ofMembers] at h
    cases hm : Binding.ofJson serial m.2 with
    | error e => simp [hm] at h
    | ok t =>
      simp only [hm] at h
      obtain ⟨rest, hrest, rfl⟩ := exists_of_map_eq_ok h
      obtain ⟨hnames, hbindings⟩ := ih hrest
      refine ⟨by rw [List.map_cons, List.map_cons, hnames], fun i name t' hi => ?_⟩
      cases i with
      | zero =>
        cases hi
        exact ⟨m.2, rfl, hm⟩
      | succ i =>
        obtain ⟨j, hj, ht⟩ := hbindings i name t' hi
        exact ⟨j, hj, by rwa [Nat.add_right_comm] at ht⟩

theorem ofMembers_eq_error {x : BindingsError} (h : ofMembers serial members = .error x) :
    ∃ before name j rest e, members = before ++ (name, j) :: rest ∧ x = .binding name e ∧
      (∃ s, Binding.ofJson s j = .error e) ∧ ∀ m ∈ before, ∃ s t, Binding.ofJson s m.2 = .ok t := by
  induction members generalizing serial with
  | nil => contradiction
  | cons m members ih =>
    rw [ofMembers] at h
    cases hm : Binding.ofJson serial m.2 with
    | error e =>
      simp only [hm, Except.error.injEq] at h
      exact ⟨[], m.1, m.2, members, e, rfl, h.symm, ⟨serial, hm⟩, fun _ hmem => absurd hmem List.not_mem_nil⟩
    | ok t =>
      simp only [hm] at h
      cases hrest : ofMembers (serial + 1) members with
      | ok rest => simp [hrest, Except.map] at h
      | error y =>
        simp only [hrest, Except.map, Except.error.injEq] at h
        subst h
        obtain ⟨before, name, j, rest, e, rfl, hy, herror, hbefore⟩ := ih hrest
        exact ⟨m :: before, name, j, rest, e, rfl, hy, herror,
          List.forall_mem_cons.2 ⟨⟨serial, t, hm⟩, hbefore⟩⟩

theorem loaded_of_ofJson (sorted : SortedByName members) {d : Dictionary TypedValue}
    (h : ofJson serial (.object members) = .ok d) :
    Loaded serial (fun name => Entries.find? name members) d := by
  obtain ⟨bindings, hmembers, rfl⟩ := exists_of_map_eq_ok h
  obtain ⟨hnames, hbindings⟩ := ofMembers_eq_ok hmembers
  have hsorted : SortedByName bindings := by rwa [sortedByName_iff, hnames, ← sortedByName_iff]
  have hentries : Entries.ofList bindings = bindings := Entries.ofList_of_sortedByName hsorted
  refine ⟨fun name => ?_, fun i name hi => ?_⟩
  · simp only [Dictionary.names, Dictionary.ofList, hentries, hnames]
    exact Entries.isSome_find?_iff.symm
  · simp only [Dictionary.names, Dictionary.ofList, hentries, List.getElem?_map, Option.map_eq_some_iff] at hi
    obtain ⟨⟨name, t⟩, ht, rfl⟩ := hi
    obtain ⟨j, hj, hok⟩ := hbindings i name t ht
    refine ⟨j, t, (Entries.find?_eq_some_iff sorted).2 (List.mem_of_getElem? hj), ?_, hok⟩
    simp only [Dictionary.find?, Dictionary.ofList, hentries]
    exact (Entries.find?_eq_some_iff hsorted).2 (List.mem_of_getElem? ht)

theorem firstFailure_of_ofJson (sorted : SortedByName members) {x : BindingsError}
    (h : ofJson serial (.object members) = .error x) : ∃ name e, x = .binding name e ∧
      FirstFailure (fun name => Entries.find? name members) name e := by
  rw [ofJson] at h
  cases hmembers : ofMembers serial members with
  | ok bindings => simp [hmembers, Except.map] at h
  | error y =>
    simp only [hmembers, Except.map, Except.error.injEq] at h
    subst h
    obtain ⟨before, name, j, rest, e, rfl, rfl, ⟨s, herror⟩, hbefore⟩ := ofMembers_eq_error hmembers
    refine ⟨name, e, rfl, ⟨j, ?_, Binding.ofJson_eq_error_of_eq_error herror⟩, fun other k hk hlt => ?_⟩
    · exact (Entries.find?_eq_some_iff sorted).2 (List.mem_append_right _ List.mem_cons_self)
    · have hmem : (other, k) ∈ before := by
        have hsorted : SortedByName ((name, j) :: rest) := (List.pairwise_append.1 sorted).2.1
        rcases List.mem_append.1 (Entries.mem_of_find?_eq_some hk) with hmem | hmem
        · exact hmem
        · rcases List.mem_cons.1 hmem with heq | hmem
          · exact absurd ((Prod.mk.inj heq).1 ▸ hlt) (String.lt_irrefl name)
          · exact absurd (String.lt_trans hlt (hsorted.lt_of_mem hmem)) (String.lt_irrefl other)
      obtain ⟨s, t, ht⟩ := hbefore _ hmem
      exact Binding.exists_ofJson_eq_ok ht

end Sigil.Bindings
