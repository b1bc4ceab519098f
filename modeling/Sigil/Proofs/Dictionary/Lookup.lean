import Mathlib.Data.List.Sort
import Sigil.Dictionary

/-! What is found in lists of pairs and in dictionaries. A list in order is decided by what is found in it, so
of pairs put in order only the last one under each name counts, and not where it stood. -/

namespace Sigil

variable {α : Type}

theorem SortedByName.tail {e : String × α} {entries : List (String × α)}
    (h : SortedByName (e :: entries)) : SortedByName entries := (List.pairwise_cons.1 h).2

theorem SortedByName.lt_of_mem {e d : String × α} {entries : List (String × α)}
    (h : SortedByName (e :: entries)) (hd : d ∈ entries) : e.1 < d.1 := (List.pairwise_cons.1 h).1 d hd

namespace Entries

theorem find?_insert (name other : String) (x : α) (entries : List (String × α)) :
    find? other (insert name x entries) = if name = other then some x else find? other entries := by
  split
  · next heq => rw [← heq, find?_insert_self]
  · next hne => exact find?_insert_of_ne (Ne.symm hne) x entries

theorem find?_append (name : String) (entries others : List (String × α)) :
    find? name (entries ++ others) = (find? name entries).or (find? name others) := by
  induction entries with
  | nil => rfl
  | cons e rest ih =>
    simp only [List.cons_append, find?]
    split
    · rfl
    · exact ih

theorem mem_of_find?_eq_some {name : String} {x : α} {entries : List (String × α)}
    (h : find? name entries = some x) : (name, x) ∈ entries := by
  induction entries with
  | nil => contradiction
  | cons e rest ih =>
    simp only [find?] at h
    split at h
    · next heq =>
      cases h
      subst heq
      exact List.mem_cons_self
    · exact List.mem_cons_of_mem _ (ih h)

theorem find?_eq_some_iff {entries : List (String × α)} (sorted : SortedByName entries) {name : String}
    {x : α} : find? name entries = some x ↔ (name, x) ∈ entries := by
  refine ⟨mem_of_find?_eq_some, fun h => ?_⟩
  induction entries with
  | nil => contradiction
  | cons e rest ih =>
    simp only [find?]
    rcases List.mem_cons.1 h with heq | hmem
    · rw [← heq, if_pos rfl]
    · have hlt : e.1 < name := sorted.lt_of_mem hmem
      rw [if_neg (fun heq : name = e.1 => String.lt_irrefl name (heq ▸ hlt)), ih sorted.tail hmem]

theorem eq_of_find?_eq {entries others : List (String × α)} (sorted : SortedByName entries)
    (sorted' : SortedByName others) (h : ∀ name, find? name entries = find? name others) :
    entries = others := by
  let r : String × α → String × α → Prop := fun a b => a.1 < b.1
  have : Std.Irrefl r := ⟨fun a => String.lt_irrefl a.1⟩
  have : Std.Antisymm r := ⟨fun a b hab hba => absurd (String.lt_trans hab hba) (String.lt_irrefl a.1)⟩
  -- Lists in order are equal when they have the same members.
  refine List.Pairwise.eq_of_mem_iff (r := r) sorted sorted' fun p => ?_
  rw [← find?_eq_some_iff sorted, h, find?_eq_some_iff sorted']

theorem find?_ofList (pairs : List (String × α)) (name : String) :
    find? name (ofList pairs) = find? name pairs.reverse := by
  have hfold : ∀ entries, find? name (pairs.foldl (fun entries p => insert p.1 p.2 entries) entries) =
      (find? name pairs.reverse).or (find? name entries) := by
    induction pairs with
    | nil => exact fun _ => rfl
    | cons p pairs ih =>
      intro entries
      rw [List.foldl_cons, ih, List.reverse_cons, find?_append, find?_insert, Option.or_assoc]
      simp only [find?, eq_comm (a := p.1)]
      split <;> rfl
  rw [ofList, hfold, find?, Option.or_none]

theorem ofList_of_sortedByName {entries : List (String × α)} (sorted : SortedByName entries) :
    ofList entries = entries := by
  refine eq_of_find?_eq (sortedByName_ofList entries) sorted fun name => Option.ext fun x => ?_
  rw [find?_ofList]
  have hmem {y : α} (h : find? name entries.reverse = some y) : find? name entries = some y :=
    (find?_eq_some_iff sorted).2 (List.mem_reverse.1 (mem_of_find?_eq_some h))
  refine ⟨hmem, fun h => ?_⟩
  have hname : name ∈ entries.reverse.map Prod.fst := by
    rw [List.map_reverse, List.mem_reverse]
    exact isSome_find?_iff.1 (Option.isSome_of_eq_some h)
  obtain ⟨y, hy⟩ := Option.isSome_iff_exists.1 (isSome_find?_iff.2 hname)
  rw [hy, ← hmem hy, h]

end Entries

theorem Dictionary.forall_find?_insert {P : α → Prop} {d : Dictionary α}
    (h : ∀ name x, d.find? name = some x → P x) {name : String} {x : α} (hx : P x) :
    ∀ other y, (d.insert name x).find? other = some y → P y := by
  intro other y hy
  by_cases heq : other = name
  · subst heq
    rw [find?_insert_self] at hy
    exact Option.some.inj hy ▸ hx
  · rw [find?_insert_of_ne d heq] at hy
    exact h other y hy

end Sigil
