import Mathlib.Algebra.Ring.Int.Defs
import Mathlib.Data.List.Forall2
import Sigil.Value.OfJson

/-! JSON trees and values side by side: induction over both, what stands inside of them, and when a value has
the shape of a tree. -/

namespace Sigil

theorem Json.induct {motive : Json → Prop} (null : motive .null) (bool : ∀ b, motive (.bool b))
    (number : ∀ n, motive (.number n)) (string : ∀ s, motive (.string s))
    (array : ∀ items, (∀ j ∈ items, motive j) → motive (.array items))
    (object : ∀ members, (∀ j ∈ members.map Prod.snd, motive j) → motive (.object members)) (j : Json) :
    motive j :=
  -- The recursor asks for a motive on lists of trees, on lists of members and on a member, too.
  @Json.rec motive (fun items => ∀ j ∈ items, motive j) (fun members => ∀ j ∈ members.map Prod.snd, motive j)
    (fun m => motive m.2) null bool number string array object
    (fun _ h => absurd h List.not_mem_nil) (fun _ _ hj hitems => List.forall_mem_cons.2 ⟨hj, hitems⟩)
    (fun _ h => absurd h List.not_mem_nil) (fun _ _ hm hmembers => List.forall_mem_cons.2 ⟨hm, hmembers⟩)
    (fun _ _ h => h) j

theorem Value.induct {motive : Value → Prop} (bool : ∀ b, motive (.bool b)) (int : ∀ n, motive (.int n))
    (float : ∀ x, motive (.float x)) (string : ∀ s, motive (.string s))
    (list : ∀ items, (∀ v ∈ items, motive v) → motive (.list items))
    (map : ∀ entries, (∀ v ∈ entries.map Prod.snd, motive v) → motive (.map entries))
    (object : ∀ o, motive (.object o)) (v : Value) : motive v :=
  @Value.rec motive (fun items => ∀ v ∈ items, motive v) (fun entries => ∀ v ∈ entries.map Prod.snd, motive v)
    (fun e => motive e.2) bool int float string list map object
    (fun _ h => absurd h List.not_mem_nil) (fun _ _ hv hitems => List.forall_mem_cons.2 ⟨hv, hitems⟩)
    (fun _ h => absurd h List.not_mem_nil) (fun _ _ he hentries => List.forall_mem_cons.2 ⟨he, hentries⟩)
    (fun _ _ h => h) v

inductive Json.Part (part : Json) : Json → Prop
  | self : Part part part
  | item {items : List Json} {j : Json} (mem : j ∈ items) (h : Part part j) : Part part (.array items)
  | member {members : List (String × Json)} {j : Json} (mem : j ∈ members.map Prod.snd) (h : Part part j) :
    Part part (.object members)

inductive Value.Part (part : Value) : Value → Prop
  | self : Part part part
  | item {items : List Value} {v : Value} (mem : v ∈ items) (h : Part part v) : Part part (.list items)
  | entry {entries : List (String × Value)} {v : Value} (mem : v ∈ entries.map Prod.snd)
    (h : Part part v) : Part part (.map entries)

/-- The value has the shape of the tree. Integers of 64 bits stay what they are, and all other numbers are
floating point numbers; lists are as long as arrays, and maps have the keys of objects. -/
inductive Json.Shape : Json → Value → Prop
  | bool (b : Bool) : Shape (.bool b) (.bool b)
  | int (n : Int64) : Shape (.number (.int n.toInt)) (.int n)
  | wide {n : Int} (wide : n < -2 ^ 63 ∨ 2 ^ 63 ≤ n) : Shape (.number (.int n)) (.float (.ofInt n))
  | float (x : Binary64) : Shape (.number (.float x)) (.float x)
  | string (s : String) : Shape (.string s) (.string s)
  | array {items : List Json} {values : List Value} (shapes : List.Forall₂ Shape items values) :
    Shape (.array items) (.list values)
  | object {members : List (String × Json)} {entries : List (String × Value)}
    (keys : entries.map Prod.fst = members.map Prod.fst)
    (shapes : List.Forall₂ Shape (members.map Prod.snd) (entries.map Prod.snd)) :
    Shape (.object members) (.map entries)

def JsonNumber.Kept : JsonNumber → Prop
  | .int n => -2 ^ 63 ≤ n ∧ n < 2 ^ 63
  | .float x => x.isFinite = true

mutual

def Value.tree : Value → Json
  | .bool b => .bool b
  | .int n => .number (.int n.toInt)
  | .float x => .number (.float x)
  | .string s => .string s
  | .list items => .array (Value.itemTrees items)
  | .map entries => .object (Value.entryTrees entries)
  | .object _ => .null

def Value.itemTrees : List Value → List Json
  | [] => []
  | v :: vs => v.tree :: Value.itemTrees vs

def Value.entryTrees : List (String × Value) → List (String × Json)
  | [] => []
  | (key, v) :: rest => (key, v.tree) :: Value.entryTrees rest

end

theorem Value.tree_list (items : List Value) : (Value.list items).tree = .array (items.map tree) := by
  have hitems : itemTrees items = items.map tree := by
    induction items with
    | nil => rfl
    | cons v vs ih => exact congrArg (v.tree :: ·) ih
  exact congrArg Json.array hitems

theorem Value.map_fst_entryTrees (entries : List (String × Value)) :
    (entryTrees entries).map Prod.fst = entries.map Prod.fst := by
  induction entries with
  | nil => rfl
  | cons e rest ih => exact congrArg (e.1 :: ·) ih

theorem Value.map_snd_entryTrees (entries : List (String × Value)) :
    (entryTrees entries).map Prod.snd = (entries.map Prod.snd).map tree := by
  induction entries with
  | nil => rfl
  | cons e rest ih => exact congrArg (e.2.tree :: ·) ih

section Forall₂

variable {α β : Type} {R S : α → β → Prop} {l : List α} {l' : List β}

theorem forall₂_congr_of_mem (h : ∀ a ∈ l, ∀ b, R a b ↔ S a b) :
    List.Forall₂ R l l' ↔ List.Forall₂ S l l' := by
  simp only [List.forall₂_iff_zip]
  refine and_congr_right fun _ => forall_congr' fun a => forall_congr' fun b => ?_
  exact imp_congr_right fun hmem => h a (List.of_mem_zip hmem).1 b

theorem forall_mem_iff_of_forall₂ (h : List.Forall₂ R l l') {P : α → Prop} {Q : β → Prop}
    (hPQ : ∀ a ∈ l, ∀ b, R a b → (P a ↔ Q b)) : (∀ a ∈ l, P a) ↔ ∀ b ∈ l', Q b := by
  induction h with
  | nil => simp
  | cons hab _ ih =>
    rw [List.forall_mem_cons, List.forall_mem_cons]
    exact and_congr (hPQ _ List.mem_cons_self _ hab) (ih fun a ha => hPQ a (List.mem_cons_of_mem _ ha))

theorem forall_mem_iff_map_eq_of_forall₂ (h : List.Forall₂ R l l') {P : α → Prop} {Q : β → Prop}
    {f : β → α} (hPQ : ∀ a ∈ l, ∀ b, R a b → (P a ↔ Q b ∧ f b = a)) :
    (∀ a ∈ l, P a) ↔ (∀ b ∈ l', Q b) ∧ l'.map f = l := by
  induction h with
  | nil => simp
  | cons hab _ ih =>
    rw [List.forall_mem_cons, List.forall_mem_cons, List.map_cons, List.cons.injEq,
      hPQ _ List.mem_cons_self _ hab, ih fun a ha => hPQ a (List.mem_cons_of_mem _ ha), and_and_and_comm]

end Forall₂

section Forall₂

variable {α : Type} {R : α → α → Prop} {l l' l'' : List α}

theorem forall₂_symm_of_mem (h : ∀ a ∈ l, ∀ b, R a b → R b a) (hl : List.Forall₂ R l l') :
    List.Forall₂ R l' l := by
  induction hl with
  | nil => exact .nil
  | cons hab _ ih =>
    exact .cons (h _ List.mem_cons_self _ hab) (ih fun a ha => h a (List.mem_cons_of_mem _ ha))

theorem forall₂_trans_of_mem (h : ∀ a ∈ l, ∀ b c, R a b → R b c → R a c) (hl : List.Forall₂ R l l')
    (hl' : List.Forall₂ R l' l'') : List.Forall₂ R l l'' := by
  induction hl generalizing l'' with
  | nil => exact hl'
  | cons hab _ ih =>
    obtain ⟨c, rest, hbc, hrest, rfl⟩ := List.forall₂_cons_left_iff.1 hl'
    exact .cons (h _ List.mem_cons_self _ _ hab hbc)
      (ih (fun a ha => h a (List.mem_cons_of_mem _ ha)) hrest)

end Forall₂

theorem eq_of_map_fst_snd_eq {α β : Type} {l l' : List (α × β)} (hfst : l.map Prod.fst = l'.map Prod.fst)
    (hsnd : l.map Prod.snd = l'.map Prod.snd) : l = l' := by
  rw [← List.zip_unzip l, ← List.zip_unzip l', List.unzip_eq_map, List.unzip_eq_map]
  simp only [hfst, hsnd]

namespace Json

theorem ordered_array_iff {items : List Json} : (array items).Ordered ↔ ∀ j ∈ items, j.Ordered := by
  induction items with
  | nil => exact iff_of_true trivial fun _ h => absurd h List.not_mem_nil
  | cons j items ih => exact (and_congr_right fun _ => ih).trans List.forall_mem_cons.symm

theorem ordered_object_iff {members : List (String × Json)} :
    (object members).Ordered ↔ SortedByName members ∧ ∀ j ∈ members.map Prod.snd, j.Ordered := by
  refine and_congr Iff.rfl ?_
  induction members with
  | nil => exact iff_of_true trivial fun _ h => absurd h List.not_mem_nil
  | cons m members ih => exact (and_congr_right fun _ => ih).trans List.forall_mem_cons.symm

end Json

namespace Value

theorem ordered_list_iff {items : List Value} : (list items).Ordered ↔ ∀ v ∈ items, v.Ordered := by
  induction items with
  | nil => exact iff_of_true trivial fun _ h => absurd h List.not_mem_nil
  | cons v items ih => exact (and_congr_right fun _ => ih).trans List.forall_mem_cons.symm

theorem ordered_map_iff {entries : List (String × Value)} :
    (map entries).Ordered ↔ SortedByName entries ∧ ∀ v ∈ entries.map Prod.snd, v.Ordered := by
  refine and_congr Iff.rfl ?_
  induction entries with
  | nil => exact iff_of_true trivial fun _ h => absurd h List.not_mem_nil
  | cons e entries ih => exact (and_congr_right fun _ => ih).trans List.forall_mem_cons.symm

end Value

theorem sortedByName_iff {α : Type} {entries : List (String × α)} :
    SortedByName entries ↔ (entries.map Prod.fst).Pairwise (· < ·) := List.pairwise_map.symm

namespace Json

@[simp] theorem part_array_iff {part : Json} {items : List Json} :
    Part part (.array items) ↔ part = .array items ∨ ∃ j ∈ items, Part part j := by
  constructor
  · rintro (_ | ⟨mem, h⟩)
    · exact .inl rfl
    · exact .inr ⟨_, mem, h⟩
  · rintro (rfl | ⟨j, mem, h⟩)
    · exact .self
    · exact .item mem h

@[simp] theorem part_object_iff {part : Json} {members : List (String × Json)} :
    Part part (.object members) ↔
      part = .object members ∨ ∃ j ∈ members.map Prod.snd, Part part j := by
  constructor
  · rintro (_ | _ | ⟨mem, h⟩)
    · exact .inl rfl
    · exact .inr ⟨_, mem, h⟩
  · rintro (rfl | ⟨j, mem, h⟩)
    · exact .self
    · exact .member mem h

def Kept (j : Json) : Prop := ∀ n, Part (.number n) j → n.Kept

theorem kept_number_iff {n : JsonNumber} : Kept (.number n) ↔ n.Kept := by
  refine ⟨fun h => h n .self, fun h m hm => ?_⟩
  cases hm
  exact h

theorem kept_array_iff {items : List Json} : Kept (.array items) ↔ ∀ j ∈ items, Kept j := by
  simp only [Kept, part_array_iff, reduceCtorEq, false_or]
  exact ⟨fun h j hj n hn => h n ⟨j, hj, hn⟩, fun h n ⟨j, hj, hn⟩ => h j hj n hn⟩

theorem kept_object_iff {members : List (String × Json)} :
    Kept (.object members) ↔ ∀ j ∈ members.map Prod.snd, Kept j := by
  simp only [Kept, part_object_iff, reduceCtorEq, false_or]
  exact ⟨fun h j hj n hn => h n ⟨j, hj, hn⟩, fun h n ⟨j, hj, hn⟩ => h j hj n hn⟩

end Json

namespace Value

@[simp] theorem part_list_iff {part : Value} {items : List Value} :
    Part part (.list items) ↔ part = .list items ∨ ∃ v ∈ items, Part part v := by
  constructor
  · rintro (_ | ⟨mem, h⟩)
    · exact .inl rfl
    · exact .inr ⟨_, mem, h⟩
  · rintro (rfl | ⟨v, mem, h⟩)
    · exact .self
    · exact .item mem h

@[simp] theorem part_map_iff {part : Value} {entries : List (String × Value)} :
    Part part (.map entries) ↔ part = .map entries ∨ ∃ v ∈ entries.map Prod.snd, Part part v := by
  constructor
  · rintro (_ | _ | ⟨mem, h⟩)
    · exact .inl rfl
    · exact .inr ⟨_, mem, h⟩
  · rintro (rfl | ⟨v, mem, h⟩)
    · exact .self
    · exact .entry mem h

def Finite (v : Value) : Prop := ∀ x, Part (.float x) v → x.isFinite = true

theorem finite_float_iff {x : Binary64} : Finite (.float x) ↔ x.isFinite = true := by
  refine ⟨fun h => h x .self, fun h y hy => ?_⟩
  cases hy
  exact h

theorem finite_list_iff {items : List Value} : Finite (.list items) ↔ ∀ v ∈ items, Finite v := by
  simp only [Finite, part_list_iff, reduceCtorEq, false_or]
  exact ⟨fun h v hv x hx => h x ⟨v, hv, hx⟩, fun h x ⟨v, hv, hx⟩ => h v hv x hx⟩

theorem finite_map_iff {entries : List (String × Value)} :
    Finite (.map entries) ↔ ∀ v ∈ entries.map Prod.snd, Finite v := by
  simp only [Finite, part_map_iff, reduceCtorEq, false_or]
  exact ⟨fun h v hv x hx => h x ⟨v, hv, hx⟩, fun h x ⟨v, hv, hx⟩ => h v hv x hx⟩

def Plain (v : Value) : Prop := ∀ o, ¬Part (.object o) v

theorem plain_list_iff {items : List Value} : Plain (.list items) ↔ ∀ v ∈ items, Plain v := by
  simp only [Plain, part_list_iff, reduceCtorEq, false_or]
  exact ⟨fun h v hv o ho => h o ⟨v, hv, ho⟩, fun h o ⟨v, hv, ho⟩ => h v hv o ho⟩

theorem plain_map_iff {entries : List (String × Value)} :
    Plain (.map entries) ↔ ∀ v ∈ entries.map Prod.snd, Plain v := by
  simp only [Plain, part_map_iff, reduceCtorEq, false_or]
  exact ⟨fun h v hv o ho => h o ⟨v, hv, ho⟩, fun h o ⟨v, hv, ho⟩ => h v hv o ho⟩

end Value

namespace Json.Shape

theorem ordered_iff {j : Json} {v : Value} (h : Shape j v) : j.Ordered ↔ v.Ordered := by
  induction j using Json.induct generalizing v with
  | array items ih =>
    cases h with
    | array shapes =>
      rw [ordered_array_iff, Value.ordered_list_iff]
      exact forall_mem_iff_of_forall₂ shapes fun j hj v hshape => ih j hj hshape
  | object members ih =>
    cases h with
    | object keys shapes =>
      rw [ordered_object_iff, Value.ordered_map_iff, sortedByName_iff, sortedByName_iff, keys]
      exact and_congr_right fun _ =>
        forall_mem_iff_of_forall₂ shapes fun j hj v hshape => ih j hj hshape
  | _ => cases h <;> exact Iff.rfl

theorem plain {j : Json} {v : Value} (h : Shape j v) : v.Plain := by
  induction j using Json.induct generalizing v with
  | array items ih =>
    cases h with
    | array shapes =>
      rw [Value.plain_list_iff, ← forall_mem_iff_of_forall₂ shapes fun j hj v hshape =>
        iff_of_true trivial (ih j hj hshape)]
      exact fun _ _ => trivial
  | object members ih =>
    cases h with
    | object keys shapes =>
      rw [Value.plain_map_iff, ← forall_mem_iff_of_forall₂ shapes fun j hj v hshape =>
        iff_of_true trivial (ih j hj hshape)]
      exact fun _ _ => trivial
  | _ =>
    cases h <;> exact fun _ hpart => nomatch hpart

theorem kept_iff {j : Json} {v : Value} (h : Shape j v) : j.Kept ↔ v.Finite ∧ v.tree = j := by
  induction j using Json.induct generalizing v with
  | array items ih =>
    cases h with
    | array shapes =>
      rw [kept_array_iff, Value.finite_list_iff, Value.tree_list, Json.array.injEq]
      exact forall_mem_iff_map_eq_of_forall₂ shapes fun j hj v hshape => ih j hj hshape
  | object members ih =>
    cases h with
    | object keys shapes =>
      have htree {entries : List (String × Value)} (hkeys : entries.map Prod.fst = members.map Prod.fst) :
          (Value.map entries).tree = .object members ↔
            (entries.map Prod.snd).map Value.tree = members.map Prod.snd := by
        rw [← Value.map_snd_entryTrees]
        refine ⟨fun heq => congrArg (List.map Prod.snd) (Json.object.inj heq), fun hvalues => ?_⟩
        exact congrArg Json.object (eq_of_map_fst_snd_eq ((Value.map_fst_entryTrees entries).trans hkeys) hvalues)
      rw [kept_object_iff, Value.finite_map_iff, htree keys]
      exact forall_mem_iff_map_eq_of_forall₂ shapes fun j hj v hshape => ih j hj hshape
  | number n =>
    rw [kept_number_iff]
    cases h with
    | int n => exact iff_of_true ⟨Int64.le_toInt n, Int64.toInt_lt n⟩ ⟨fun _ hx => (nomatch hx), rfl⟩
    | wide wide =>
      refine iff_of_false (fun hkept => ?_) (by simp [Value.tree])
      rcases wide with hlt | hle
      · exact Int.not_le.2 hlt hkept.1
      · exact Int.not_le.2 hkept.2 hle
    | float x => simp [JsonNumber.Kept, Value.finite_float_iff, Value.tree]
  | null => nomatch h
  | _ =>
    cases h
    exact iff_of_true (fun _ hn => nomatch hn) ⟨fun _ hx => (nomatch hx), rfl⟩

end Json.Shape
end Sigil
