import Sigil.Proofs.Binding.Meaning
import Sigil.Proofs.Json.Spelling
import Sigil.Value.Text

/-! Values as they are shown, read again as JSON text. Where strings and keys are shown as they are and all
numbers are integers, the text of a value spells the tree of its shape, with blanks behind commas and colons.
Read as a binding it gives the value back. -/

namespace Sigil

namespace Text

def Verbatim (s : String) : Prop := ∀ x ∈ s.toList, escapeChar x = [x]

instance : DecidablePred Verbatim := fun s =>
  List.decidableBAll (fun x => escapeChar x = [x]) s.toList

theorem unescaped_of_escapeChar {x : Char} (h : escapeChar x = [x]) : Json.Unescaped x := by
  have hcontrols : ∀ n < 0x20, escapeChar (Char.ofNat n) ≠ [Char.ofNat n] := by decide +kernel
  refine ⟨?_, ?_, Nat.le_of_not_lt fun hlt => ?_⟩
  · rintro rfl
    exact absurd h (by decide)
  · rintro rfl
    exact absurd h (by decide)
  · refine hcontrols x.toNat hlt ?_
    rwa [Char.ofNat_toNat]

theorem toList_quote {s : String} (h : Verbatim s) :
    (quote s).toList = '"' :: (s.toList ++ ['"']) := by
  have hflat : s.toList.flatMap escapeChar = s.toList := by
    rw [List.flatMap_congr h, List.flatMap_singleton']
  rw [quote, hflat, String.toList_ofList, List.cons_append]

end Text

namespace Value

mutual

def nesting : Value → Nat
  | .list items => itemNesting items + 1
  | .map entries => entryNesting entries + 1
  | _ => 0

def itemNesting : List Value → Nat
  | [] => 0
  | v :: vs => max v.nesting (itemNesting vs)

def entryNesting : List (String × Value) → Nat
  | [] => 0
  | (_, v) :: rest => max v.nesting (entryNesting rest)

end

theorem nesting_list_le {items : List Value} {depth : Nat} :
    (list items).nesting ≤ depth + 1 ↔ ∀ v ∈ items, v.nesting ≤ depth := by
  rw [nesting, Nat.add_le_add_iff_right]
  induction items with
  | nil => simp [itemNesting]
  | cons v items ih => rw [itemNesting, Nat.max_le, ih, List.forall_mem_cons]

theorem nesting_map_le {entries : List (String × Value)} {depth : Nat} :
    (map entries).nesting ≤ depth + 1 ↔ ∀ v ∈ entries.map Prod.snd, v.nesting ≤ depth := by
  rw [nesting, Nat.add_le_add_iff_right]
  induction entries with
  | nil => simp [entryNesting]
  | cons e entries ih => rw [entryNesting, Nat.max_le, ih, List.map_cons, List.forall_mem_cons]

/-- The value is made of booleans, integers, strings, lists and maps. None of its strings needs an escape in a
JSON text, and none of its keys is shown with one. -/
structure Literal (v : Value) : Prop where
  float : ∀ x, ¬Part (.float x) v
  plain : v.Plain
  string : ∀ s, Part (.string s) v → Json.Verbatim s
  key : ∀ entries, Part (.map entries) v → ∀ e ∈ entries, Text.Verbatim e.1

theorem literal_bool (b : Bool) : Literal (.bool b) := ⟨nofun, nofun, nofun, nofun⟩

theorem literal_int (n : Int64) : Literal (.int n) := ⟨nofun, nofun, nofun, nofun⟩

theorem literal_string_iff {s : String} : Literal (.string s) ↔ Json.Verbatim s := by
  refine ⟨fun h => h.string s .self, fun h => ⟨nofun, nofun, fun s' hs => ?_, nofun⟩⟩
  cases hs
  exact h

theorem literal_list_iff {items : List Value} : Literal (.list items) ↔ ∀ v ∈ items, Literal v := by
  constructor
  · intro h v hv
    exact ⟨fun x hx => h.float x (.item hv hx), fun o ho => h.plain o (.item hv ho),
      fun s hs => h.string s (.item hv hs), fun entries hentries => h.key entries (.item hv hentries)⟩
  · intro h
    constructor
    · rintro x (_ | ⟨hv, hx⟩)
      exact (h _ hv).float x hx
    · rintro o (_ | ⟨hv, ho⟩)
      exact (h _ hv).plain o ho
    · rintro s (_ | ⟨hv, hs⟩)
      exact (h _ hv).string s hs
    · rintro entries (_ | ⟨hv, hentries⟩)
      exact (h _ hv).key entries hentries

theorem literal_map_iff {entries : List (String × Value)} :
    Literal (.map entries) ↔ (∀ e ∈ entries, Text.Verbatim e.1) ∧
      ∀ v ∈ entries.map Prod.snd, Literal v := by
  constructor
  · refine fun h => ⟨h.key entries .self, fun v hv => ?_⟩
    exact ⟨fun x hx => h.float x (.entry hv hx), fun o ho => h.plain o (.entry hv ho),
      fun s hs => h.string s (.entry hv hs), fun entries hentries => h.key entries (.entry hv hentries)⟩
  · rintro ⟨hkeys, h⟩
    constructor
    · rintro x (_ | _ | ⟨hv, hx⟩)
      exact (h _ hv).float x hx
    · rintro o (_ | _ | ⟨hv, ho⟩)
      exact (h _ hv).plain o ho
    · rintro s (_ | _ | ⟨hv, hs⟩)
      exact (h _ hv).string s hs
    · rintro entries' (_ | _ | ⟨hv, hentries⟩)
      · exact hkeys
      · exact (h _ hv).key entries' hentries

theorem itemTexts_eq (items : List Value) : itemTexts items = items.map text := by
  induction items with
  | nil => rfl
  | cons v items ih => rw [itemTexts, ih, List.map_cons]

theorem entryTexts_eq (entries : List (String × Value)) :
    entryTexts entries = entries.map fun e => Text.quote e.1 ++ ": " ++ e.2.text := by
  induction entries with
  | nil => rfl
  | cons e entries ih => rw [entryTexts, ih, List.map_cons]

theorem entryTrees_eq (entries : List (String × Value)) :
    entryTrees entries = entries.map fun e => (e.1, e.2.tree) := by
  induction entries with
  | nil => rfl
  | cons e entries ih => rw [entryTrees, ih, List.map_cons]

theorem blank_gap : ∀ x ∈ [' '], Json.isBlank x = true := by simp [Json.isBlank]

theorem spells_text {v : Value} {depth : Nat} (ordered : v.Ordered) (literal : v.Literal)
    (shallow : v.nesting ≤ depth) : Json.Spells depth v.text.toList v.tree := by
  induction v using Value.induct generalizing depth with
  | bool b => exact Json.spells_bool b
  | int n => exact Json.spells_int n
  | float x => exact absurd .self (literal.float x)
  | object o => exact absurd .self (literal.plain o)
  | string s =>
    rw [text, String.toList_append, String.toList_append, List.append_assoc]
    exact Json.spells_string (literal.string s .self)
  | list items ih =>
    obtain ⟨depth, rfl⟩ := Nat.exists_eq_add_one_of_ne_zero (Nat.ne_zero_of_lt shallow)
    rw [text, tree_list, itemTexts_eq, String.toList_append, String.toList_append, String.toList_intercalate,
      List.append_assoc]
    refine Json.spells_array blank_gap ?_
    rw [List.map_map, List.forall₂_map_left_iff, List.forall₂_map_right_iff, List.forall₂_same]
    intro v hv
    exact ih v hv (ordered_list_iff.1 ordered v hv) (literal_list_iff.1 literal v hv)
      (nesting_list_le.1 shallow v hv)
  | map entries ih =>
    obtain ⟨depth, rfl⟩ := Nat.exists_eq_add_one_of_ne_zero (Nat.ne_zero_of_lt shallow)
    obtain ⟨sorted, hordered⟩ := ordered_map_iff.1 ordered
    obtain ⟨hkeys, hliteral⟩ := literal_map_iff.1 literal
    have hsorted : SortedByName (entryTrees entries) := by
      rwa [sortedByName_iff, map_fst_entryTrees, ← sortedByName_iff]
    rw [text, tree, entryTexts_eq, String.toList_append, String.toList_append, String.toList_intercalate,
      List.append_assoc]
    refine Json.spells_object blank_gap ?_ hsorted
    rw [entryTrees_eq, List.map_map, List.forall₂_map_left_iff, List.forall₂_map_right_iff,
      List.forall₂_same]
    intro e he
    have hkey : Text.Verbatim e.1 := hkeys e he
    have hv : e.2 ∈ entries.map Prod.snd := List.mem_map_of_mem he
    refine ⟨fun x hx => Text.unescaped_of_escapeChar (hkey x hx), e.2.text.toList, ?_, ?_⟩
    · exact ih e.2 hv (hordered e.2 hv) (hliteral e.2 hv) (nesting_map_le.1 shallow e.2 hv)
    · rw [Function.comp_apply, String.toList_append, String.toList_append, Text.toList_quote hkey]
      simp

end Value

namespace Binding

theorem typeMember?_tree {v : Value}
    (untyped : ∀ entries, v = .map entries → typeKey ∉ entries.map Prod.fst) :
    typeMember? v.tree = none := by
  cases v with
  | map entries =>
    refine Option.eq_none_iff_forall_ne_some.2 fun k hk => ?_
    have hmem : (typeKey, k) ∈ Value.entryTrees entries := Entries.mem_of_find?_eq_some hk
    refine untyped entries rfl ?_
    rw [← Value.map_fst_entryTrees]
    exact List.mem_map_of_mem hmem
  | _ => rfl

/-- The text of a literal value, read as a binding, is the value again. The reader opens no more than 127
lists and maps, and takes a map with the key of host objects for one of these. -/
theorem shown_values_read_back (v : Value) (ordered : v.Ordered) (literal : v.Literal)
    (shallow : v.nesting ≤ Json.maxNesting)
    (untyped : ∀ entries, v = .map entries → typeKey ∉ entries.map Prod.fst) (serial : Nat) :
    parse serial (TypedValue.text ⟨some v, some v.descriptor⟩) = .ok ⟨some v, some v.descriptor⟩ := by
  have hread : Json.read v.text = .ok v.tree :=
    Json.read_of_spells (Value.spells_text ordered literal shallow)
  have hvalue : Value.ofJson v.tree = .ok (some v) :=
    Value.ofJson_eq_ok_some_iff.2 (Value.shape_tree literal.plain)
  have htext : TypedValue.text ⟨some v, some v.descriptor⟩ = v.text := rfl
  have hplain : ofJson serial v.tree = ofPlain v.tree :=
    ofJson_of_typeMember?_eq_none (typeMember?_tree untyped) serial
  simp only [parse, Json.parse, htext, hread, Except.mapError, hplain, ofPlain, hvalue,
    TypedValue.ofOption_eq, Option.map_some]

theorem shown_values_read_back_nested :
    let v : Value := .map [("", .list [.int Int64.minValue, .int Int64.maxValue, .int 0]),
      ("größe", .list [.list [], .map [], .string "\x7f → é", .bool false, .map [("$type", .string "A")]])]
    v.text = "\x7b\"\": [-9223372036854775808, 9223372036854775807, 0], " ++
        "\"größe\": [[], \x7b\x7d, \"\x7f → é\", false, \x7b\"$type\": \"A\"\x7d]\x7d" ∧
      parse 0 (TypedValue.text ⟨some v, some .map⟩) = .ok ⟨some v, some .map⟩ := by
  intro v
  refine ⟨by decide +kernel, shown_values_read_back v ?_ ?_ (by decide) ?_ 0⟩
  · simp only [v, Value.Ordered, Value.OrderedItems, Value.OrderedEntries, SortedByName]
    decide +kernel
  · simp only [v, Value.literal_map_iff, Value.literal_list_iff, Value.literal_string_iff, Value.literal_bool,
      Value.literal_int, List.forall_mem_cons, List.map_cons, List.map_nil, List.not_mem_nil, false_implies,
      implies_true, and_true, true_and]
    decide +kernel
  · intro entries hv
    obtain rfl := Value.map.inj hv
    decide +kernel

end Binding
end Sigil
