/-!
Dictionaries from names to things, as lists of pairs in strictly increasing order of the names by
code points. Inserting under a name that is there replaces what it stands for.
-/

namespace Sigil

variable {α : Type}

def SortedByName (entries : List (String × α)) : Prop :=
  entries.Pairwise fun a b => a.1 < b.1

namespace Entries

def insert (name : String) (x : α) : List (String × α) → List (String × α)
  | [] => [(name, x)]
  | (n, y) :: rest =>
    if name < n then (name, x) :: (n, y) :: rest
    else if name = n then (name, x) :: rest
    else (n, y) :: insert name x rest

def find? (name : String) : List (String × α) → Option α
  | [] => none
  | (n, x) :: rest => if name = n then some x else find? name rest

def erase (name : String) (entries : List (String × α)) : List (String × α) :=
  entries.filter fun e => e.1 != name

def ofList (pairs : List (String × α)) : List (String × α) :=
  pairs.foldl (fun entries p => insert p.1 p.2 entries) []

theorem find?_insert_self (name : String) (x : α) (entries : List (String × α)) :
    find? name (insert name x entries) = some x := by
  induction entries with
  | nil => simp [insert, find?]
  | cons e rest ih =>
    simp only [insert]
    split
    · simp [find?]
    · split
      · simp [find?]
      · simp [find?, *]

theorem find?_insert_of_ne {name other : String} (h : other ≠ name) (x : α)
    (entries : List (String × α)) : find? other (insert name x entries) = find? other entries := by
  induction entries with
  | nil => simp [insert, find?, h]
  | cons e rest ih =>
    simp only [insert]
    split
    · simp [find?, h]
    · split
      · next heq => subst heq; simp [find?, h]
      · simp [find?, ih]

theorem isSome_find?_iff {name : String} {entries : List (String × α)} :
    (find? name entries).isSome = true ↔ name ∈ entries.map Prod.fst := by
  induction entries with
  | nil => simp [find?]
  | cons e rest ih =>
    simp only [find?, List.map_cons, List.mem_cons]
    split
    · simp [*]
    · next hne => simp [ih, hne]

theorem mem_insert {name : String} {x : α} {entries : List (String × α)} {e : String × α}
    (h : e ∈ insert name x entries) : e = (name, x) ∨ e ∈ entries := by
  induction entries with
  | nil => exact .inl (by simpa [insert] using h)
  | cons d rest ih =>
    simp only [insert] at h
    split at h
    · simpa using h
    · split at h
      · rcases List.mem_cons.1 h with h | h
        · exact .inl h
        · exact .inr (List.mem_cons_of_mem _ h)
      · rcases List.mem_cons.1 h with h | h
        · exact .inr (h ▸ List.mem_cons_self)
        · exact (ih h).imp_right (List.mem_cons_of_mem _)

theorem sortedByName_insert {entries : List (String × α)} (h : SortedByName entries) (name : String)
    (x : α) : SortedByName (insert name x entries) := by
  induction entries with
  | nil => simp [insert, SortedByName]
  | cons d rest ih =>
    obtain ⟨hd, hrest⟩ := List.pairwise_cons.1 h
    simp only [insert]
    split
    · next hlt =>
      refine List.pairwise_cons.2 ⟨fun e he => ?_, h⟩
      rcases List.mem_cons.1 he with he | he
      · exact he ▸ hlt
      · exact String.lt_trans hlt (hd e he)
    · split
      · next heq => exact List.pairwise_cons.2 ⟨fun e he => heq ▸ hd e he, hrest⟩
      · next hlt hne =>
        refine List.pairwise_cons.2 ⟨fun e he => ?_, ih hrest⟩
        rcases mem_insert he with he | he
        · subst he
          rcases String.le_total name d.1 with hle | hle
          · exact absurd (String.le_antisymm hle (String.not_lt.1 hlt)) hne
          · exact (String.not_le.1 fun hle' => hne (String.le_antisymm hle' hle))
        · exact hd e he

theorem sortedByName_ofList (pairs : List (String × α)) : SortedByName (ofList pairs) := by
  suffices h : ∀ entries, SortedByName entries →
      SortedByName (pairs.foldl (fun entries p => insert p.1 p.2 entries) entries) from
    h [] List.Pairwise.nil
  induction pairs with
  | nil => exact fun _ h => h
  | cons p ps ih => exact fun _ h => ih _ (sortedByName_insert h p.1 p.2)

end Entries

structure Dictionary (α : Type) where
  entries : List (String × α)
  sorted : SortedByName entries

namespace Dictionary

def empty : Dictionary α := ⟨[], List.Pairwise.nil⟩

instance : Inhabited (Dictionary α) := ⟨empty⟩

def find? (d : Dictionary α) (name : String) : Option α := Entries.find? name d.entries

def insert (d : Dictionary α) (name : String) (x : α) : Dictionary α :=
  ⟨Entries.insert name x d.entries, Entries.sortedByName_insert d.sorted name x⟩

def ofList (pairs : List (String × α)) : Dictionary α :=
  ⟨Entries.ofList pairs, Entries.sortedByName_ofList pairs⟩

def names (d : Dictionary α) : List String := d.entries.map (·.1)

@[simp] theorem find?_empty (name : String) : (empty : Dictionary α).find? name = none := rfl

@[simp] theorem find?_insert_self (d : Dictionary α) (name : String) (x : α) :
    (d.insert name x).find? name = some x := Entries.find?_insert_self name x d.entries

theorem find?_insert_of_ne (d : Dictionary α) {name other : String} (h : other ≠ name) (x : α) :
    (d.insert name x).find? other = d.find? other := Entries.find?_insert_of_ne h x d.entries

theorem mem_names_iff (d : Dictionary α) {name : String} :
    name ∈ d.names ↔ (d.find? name).isSome = true := Entries.isSome_find?_iff.symm

theorem names_pairwise (d : Dictionary α) : d.names.Pairwise (· < ·) := List.pairwise_map.2 d.sorted

end Dictionary
end Sigil
