import Mathlib.Data.Set.Function
import Sigil.Proofs.Value.Tree

/-! The conversion of JSON trees to values: which trees have one, that it has the shape of the tree, and that
on trees whose numbers are kept the conversion can be undone. -/

namespace Sigil

theorem JsonNumber.fitsInt64_iff (n : Int) : fitsInt64 n = true ↔ -2 ^ 63 ≤ n ∧ n < 2 ^ 63 := by
  have hmin : Int64.minValue.toInt = -2 ^ 63 := by decide
  have hmax : Int64.maxValue.toInt = 2 ^ 63 - 1 := by decide
  rw [fitsInt64, Bool.and_eq_true, decide_eq_true_iff, decide_eq_true_iff, hmin, hmax, Int.le_sub_one_iff]

theorem JsonNumber.toValue_eq_iff_shape {n : JsonNumber} {v : Value} :
    n.toValue = v ↔ Json.Shape (.number n) v := by
  constructor
  · rintro rfl
    cases n with
    | float x => exact .float x
    | int n =>
      rw [toValue]
      split
      · next hfits =>
        obtain ⟨hle, hlt⟩ := (fitsInt64_iff n).1 hfits
        have hn : (Int64.ofInt n).toInt = n := Int64.toInt_ofInt_of_le hle hlt
        have hshape : Json.Shape (.number (.int (Int64.ofInt n).toInt)) (.int (Int64.ofInt n)) := .int _
        rwa [hn] at hshape
      · next hfits =>
        rw [fitsInt64_iff, not_and_or, Int.not_le, Int.not_lt] at hfits
        exact .wide hfits
  · intro h
    cases h with
    | float x => rfl
    | int n =>
      rw [toValue, if_pos ((fitsInt64_iff _).2 ⟨Int64.le_toInt n, Int64.toInt_lt n⟩), Int64.ofInt_toInt]
    | wide wide =>
      rw [toValue, if_neg]
      rwa [fitsInt64_iff, not_and_or, Int.not_le, Int.not_lt]

namespace Value

theorem ofTree?_array (items : List Json) : ofTree? (.array items) = (ofItems? items).map .list := rfl

theorem ofTree?_object (members : List (String × Json)) :
    ofTree? (.object members) = (ofMembers? members).map .map := rfl

theorem ofItems?_cons (j : Json) (items : List Json) :
    ofItems? (j :: items) = (ofTree? j).bind fun v => (ofItems? items).map (v :: ·) := by
  rw [ofItems?]
  cases ofTree? j <;> cases ofItems? items <;> rfl

theorem ofMembers?_cons (m : String × Json) (members : List (String × Json)) :
    ofMembers? (m :: members) = (ofTree? m.2).bind fun v => (ofMembers? members).map ((m.1, v) :: ·) := by
  rw [ofMembers?]
  cases ofTree? m.2 <;> cases ofMembers? members <;> rfl

theorem ofJson_of_ne_null {j : Json} (h : j ≠ .null) :
    ofJson j = (ofTree? j).elim (.error .nullInCollection) fun v => .ok (some v) := by
  cases j with
  | null => contradiction
  | _ =>
    rw [ofJson]
    · split <;> simp only [*, Option.elim]
    · exact h

theorem ofItems?_eq_some_iff {items : List Json} {values : List Value} :
    ofItems? items = some values ↔ List.Forall₂ (fun j v => ofTree? j = some v) items values := by
  induction items generalizing values with
  | nil =>
    rw [List.forall₂_nil_left_iff]
    exact Option.some_inj.trans eq_comm
  | cons j items ih =>
    simp only [List.forall₂_cons_left_iff, ofItems?_cons, Option.bind_eq_some_iff, Option.map_eq_some_iff, ih]
    constructor
    · rintro ⟨v, hv, vs, hvs, rfl⟩
      exact ⟨v, vs, hv, hvs, rfl⟩
    · rintro ⟨v, vs, hv, hvs, rfl⟩
      exact ⟨v, hv, vs, hvs, rfl⟩

theorem ofMembers?_eq_some_iff {members : List (String × Json)} {entries : List (String × Value)} :
    ofMembers? members = some entries ↔ entries.map Prod.fst = members.map Prod.fst ∧
      List.Forall₂ (fun j v => ofTree? j = some v) (members.map Prod.snd) (entries.map Prod.snd) := by
  induction members generalizing entries with
  | nil =>
    rw [List.map_nil, List.map_nil, List.forall₂_nil_left_iff, List.map_eq_nil_iff, List.map_eq_nil_iff,
      and_self_iff]
    exact Option.some_inj.trans eq_comm
  | cons m members ih =>
    simp only [ofMembers?_cons, Option.bind_eq_some_iff, Option.map_eq_some_iff, ih]
    constructor
    · rintro ⟨v, hv, rest, ⟨hkeys, hrest⟩, rfl⟩
      exact ⟨congrArg (m.1 :: ·) hkeys, .cons hv hrest⟩
    · rintro ⟨hkeys, hentries⟩
      cases entries with
      | nil => contradiction
      | cons e rest =>
        obtain ⟨hkey, hkeys⟩ := List.cons.inj hkeys
        obtain ⟨hv, hrest⟩ := List.forall₂_cons.1 hentries
        exact ⟨e.2, hv, rest, ⟨hkeys, hrest⟩, by rw [← hkey]⟩

theorem ofItems?_eq_none_iff {items : List Json} :
    ofItems? items = none ↔ ∃ j ∈ items, ofTree? j = none := by
  induction items with
  | nil => exact iff_of_false (Option.some_ne_none _) (fun ⟨_, hmem, _⟩ => absurd hmem List.not_mem_nil)
  | cons j items ih =>
    rw [List.exists_mem_cons_iff, ← ih, ofItems?_cons]
    cases ofTree? j <;> simp

theorem ofMembers?_eq_none_iff {members : List (String × Json)} :
    ofMembers? members = none ↔ ∃ j ∈ members.map Prod.snd, ofTree? j = none := by
  induction members with
  | nil => exact iff_of_false (Option.some_ne_none _) (fun ⟨_, hmem, _⟩ => absurd hmem List.not_mem_nil)
  | cons m members ih =>
    rw [List.map_cons, List.exists_mem_cons_iff, ← ih, ofMembers?_cons]
    cases ofTree? m.2 <;> simp

theorem ofTree?_eq_some_iff {j : Json} {v : Value} : ofTree? j = some v ↔ Json.Shape j v := by
  induction j using Json.induct generalizing v with
  | null => exact iff_of_false (Option.some_ne_none _).symm (fun h => by cases h)
  | bool b => exact ⟨fun h => Option.some.inj h ▸ .bool b, fun h => by cases h; rfl⟩
  | number n => exact Option.some_inj.trans JsonNumber.toValue_eq_iff_shape
  | string s => exact ⟨fun h => Option.some.inj h ▸ .string s, fun h => by cases h; rfl⟩
  | array items ih =>
    rw [ofTree?_array, Option.map_eq_some_iff]
    simp only [ofItems?_eq_some_iff, forall₂_congr_of_mem fun j hj v => ih j hj (v := v)]
    constructor
    · rintro ⟨values, hshapes, rfl⟩
      exact .array hshapes
    · rintro ⟨⟩
      next hshapes => exact ⟨_, hshapes, rfl⟩
  | object members ih =>
    rw [ofTree?_object, Option.map_eq_some_iff]
    simp only [ofMembers?_eq_some_iff, forall₂_congr_of_mem fun j hj v => ih j hj (v := v)]
    constructor
    · rintro ⟨entries, ⟨hkeys, hshapes⟩, rfl⟩
      exact .object hkeys hshapes
    · rintro ⟨⟩
      next hkeys hshapes => exact ⟨_, ⟨hkeys, hshapes⟩, rfl⟩

theorem ofTree?_eq_none_iff {j : Json} : ofTree? j = none ↔ Json.Part .null j := by
  induction j using Json.induct with
  | null => exact iff_of_true rfl .self
  | array items ih =>
    rw [ofTree?_array, Option.map_eq_none_iff, ofItems?_eq_none_iff, Json.part_array_iff]
    simp only [reduceCtorEq, false_or]
    exact exists_congr fun j => and_congr_right fun hj => ih j hj
  | object members ih =>
    rw [ofTree?_object, Option.map_eq_none_iff, ofMembers?_eq_none_iff, Json.part_object_iff]
    simp only [reduceCtorEq, false_or]
    exact exists_congr fun j => and_congr_right fun hj => ih j hj
  | _ => exact iff_of_false (Option.some_ne_none _) (fun h => by cases h)

theorem shape_tree {v : Value} (plain : v.Plain) : Json.Shape v.tree v := by
  induction v using Value.induct with
  | bool b => exact .bool b
  | int n => exact .int n
  | float x => exact .float x
  | string s => exact .string s
  | list items ih =>
    rw [tree_list]
    refine .array (List.forall₂_map_left_iff.2 (List.forall₂_same.2 fun v hv => ?_))
    exact ih v hv (plain_list_iff.1 plain v hv)
  | map entries ih =>
    refine .object (map_fst_entryTrees entries).symm ?_
    rw [map_snd_entryTrees]
    refine List.forall₂_map_left_iff.2 (List.forall₂_same.2 fun v hv => ?_)
    exact ih v hv (plain_map_iff.1 plain v hv)
  | object o => exact absurd .self (plain o)

theorem ofJson_eq_ok_some_iff {j : Json} {v : Value} : ofJson j = .ok (some v) ↔ Json.Shape j v := by
  rcases eq_or_ne j .null with rfl | hj
  · exact iff_of_false (by simp [ofJson]) (fun h => by cases h)
  · rw [ofJson_of_ne_null hj, ← ofTree?_eq_some_iff]
    cases ofTree? j <;> simp

theorem ofJson_eq_ok_none_iff {j : Json} : ofJson j = .ok none ↔ j = .null := by
  rcases eq_or_ne j .null with rfl | hj
  · exact iff_of_true rfl rfl
  · rw [ofJson_of_ne_null hj]
    cases ofTree? j <;> simp [hj]

theorem ofJson_eq_error_iff {j : Json} {e : OfJsonError} :
    ofJson j = .error e ↔ j ≠ .null ∧ Json.Part .null j := by
  cases e
  rcases eq_or_ne j .null with rfl | hj
  · exact iff_of_false (fun h => by contradiction) (fun h => h.1 rfl)
  · rw [ofJson_of_ne_null hj, ← ofTree?_eq_none_iff]
    cases ofTree? j <;> simp [hj]

theorem exists_ofJson_eq {j : Json} (h : ¬Json.Part .null j) : ∃ v, ofJson j = .ok (some v) := by
  cases hj : ofJson j with
  | error e => exact absurd (ofJson_eq_error_iff.1 hj).2 h
  | ok value =>
    cases value with
    | some v => exact ⟨v, rfl⟩
    | none => exact absurd (ofJson_eq_ok_none_iff.1 hj ▸ .self) h

theorem not_part_null_of_ofJson {j : Json} {v : Value} (h : ofJson j = .ok (some v)) :
    ¬Json.Part .null j := by
  rw [ofJson_eq_ok_some_iff, ← ofTree?_eq_some_iff] at h
  simp [← ofTree?_eq_none_iff, h]

theorem bijOn_ofJson :
    Set.BijOn ofJson {j | j.Ordered ∧ ¬Json.Part .null j ∧ j.Kept}
      ((fun v => .ok (some v)) '' {v | v.Ordered ∧ v.Plain ∧ v.Finite}) := by
  refine ⟨?_, ?_, ?_⟩
  · rintro j ⟨ordered, hnull, kept⟩
    obtain ⟨v, hv⟩ := exists_ofJson_eq hnull
    have hshape : Json.Shape j v := ofJson_eq_ok_some_iff.1 hv
    exact ⟨v, ⟨hshape.ordered_iff.1 ordered, hshape.plain, (hshape.kept_iff.1 kept).1⟩, hv.symm⟩
  · rintro j ⟨-, hnull, kept⟩ j' ⟨-, -, kept'⟩ heq
    obtain ⟨v, hv⟩ := exists_ofJson_eq hnull
    -- Both trees are the tree of the one value.
    have htree : v.tree = j := ((ofJson_eq_ok_some_iff.1 hv).kept_iff.1 kept).2
    have htree' : v.tree = j' := ((ofJson_eq_ok_some_iff.1 (heq ▸ hv)).kept_iff.1 kept').2
    rw [← htree, htree']
  · rintro - ⟨v, ⟨ordered, plain, finite⟩, rfl⟩
    have hshape : Json.Shape v.tree v := shape_tree plain
    have hv : ofJson v.tree = .ok (some v) := ofJson_eq_ok_some_iff.2 hshape
    exact ⟨v.tree, ⟨hshape.ordered_iff.2 ordered, not_part_null_of_ofJson hv,
      hshape.kept_iff.2 ⟨finite, rfl⟩⟩, hv⟩

/-- The trees without null have a value of their own shape, and the null tree has none. The others are
refused. Over finite floating point numbers the conversion is a bijection. -/
theorem ofJson_keeps_shape :
    (∀ j : Json,
      (ofJson j = .ok none ↔ j = .null) ∧
      (∀ e, ofJson j = .error e ↔ j ≠ .null ∧ Json.Part .null j) ∧
      (¬Json.Part .null j → ∃ v, ofJson j = .ok (some v)) ∧
      ∀ v, (ofJson j = .ok (some v) ↔ Json.Shape j v) ∧
        (Json.Shape j v → (j.Ordered ↔ v.Ordered))) ∧
    (∀ v : Value, v.Plain → v.Finite →
      Json.Shape v.tree v ∧ v.tree.Kept ∧ ofJson v.tree = .ok (some v)) ∧
    Set.BijOn ofJson {j | j.Ordered ∧ ¬Json.Part .null j ∧ j.Kept}
      ((fun v => .ok (some v)) '' {v | v.Ordered ∧ v.Plain ∧ v.Finite}) := by
  refine ⟨fun j => ⟨ofJson_eq_ok_none_iff, fun e => ofJson_eq_error_iff, exists_ofJson_eq,
    fun v => ⟨ofJson_eq_ok_some_iff, Json.Shape.ordered_iff⟩⟩, fun v plain finite => ?_, bijOn_ofJson⟩
  have hshape : Json.Shape v.tree v := shape_tree plain
  exact ⟨hshape, hshape.kept_iff.2 ⟨finite, rfl⟩, ofJson_eq_ok_some_iff.2 hshape⟩

theorem ofJson_keeps_shape_nested :
    let wide : Json := .number (.int (2 ^ 63))
    let v : Value := .map [("", .list [.int Int64.minValue, .float (.ofInt (2 ^ 63))]), ("$type", .int 7)]
    v.Plain ∧ v.Finite ∧ ofJson v.tree = .ok (some v) ∧
      (¬Json.Part .null wide ∧ ofJson wide = .ok (some (.float (.ofInt (2 ^ 63))))) ∧
      ofJson (.array [wide, .object [("", .array [.null])]]) = .error .nullInCollection := by
  intro wide v
  have plain : v.Plain := by
    simp only [v, plain_map_iff, plain_list_iff, List.map_cons, List.map_nil, List.forall_mem_cons]
    exact ⟨⟨fun _ h => (nomatch h), fun _ h => (nomatch h), fun _ h => absurd h List.not_mem_nil⟩,
      fun _ h => (nomatch h), fun _ h => absurd h List.not_mem_nil⟩
  have finite : v.Finite := by
    simp only [v, finite_map_iff, finite_list_iff, List.map_cons, List.map_nil, List.forall_mem_cons,
      finite_float_iff]
    exact ⟨⟨fun _ h => (nomatch h), by decide +kernel, fun _ h => absurd h List.not_mem_nil⟩,
      fun _ h => (nomatch h), fun _ h => absurd h List.not_mem_nil⟩
  have hwide : ¬Json.Part .null (.number (.int (2 ^ 63))) := fun h => nomatch h
  obtain ⟨htrees, hvalues, -⟩ := ofJson_keeps_shape
  refine ⟨plain, finite, (hvalues v plain finite).2.2, ⟨hwide, ?_⟩, ?_⟩
  · exact ((htrees wide).2.2.2 _).1.2 (.wide (.inr (by decide)))
  · refine ((htrees _).2.1 _).2 ⟨nofun, ?_⟩
    exact .item (.tail _ (.head _)) (.member (.head _) (.item (.head _) .self))

end Value
end Sigil
