import Sigil.Program.Run
import Sigil.Proofs.Value.Tree

/-! Equality of values. It is symmetric and transitive, and a value differs from itself exactly if it holds
what is not a number. Equal values match wherever parts of them face each other, and no cast and no exit type
tells them apart. -/

namespace Sigil

namespace Value

/-- Two values match at the top. Scalars have equal contents, lists are as long as each other, maps have the
same keys, and host objects are the same object. -/
inductive Matches : Value → Value → Prop
  | bool (b : Bool) : Matches (.bool b) (.bool b)
  | int (n : Int64) : Matches (.int n) (.int n)
  | float {x y : Binary64} (h : x.beq y = true) : Matches (.float x) (.float y)
  | string (s : String) : Matches (.string s) (.string s)
  | list {items others : List Value} (h : items.length = others.length) :
    Matches (.list items) (.list others)
  | map {entries others : List (String × Value)} (h : entries.map Prod.fst = others.map Prod.fst) :
    Matches (.map entries) (.map others)
  | object {o o' : HostObject} (same : o.identity = o'.identity) : Matches (.object o) (.object o')

/-- One value stands in a value where another one stands in another: both are the whole, or they stand at the
same position in lists or maps that face each other. -/
inductive Facing (a b : Value) : Value → Value → Prop
  | self : Facing a b a b
  | item {items others : List Value} {v w : Value} (mem : (v, w) ∈ items.zip others)
    (h : Facing a b v w) : Facing a b (.list items) (.list others)
  | entry {entries others : List (String × Value)} {v w : Value}
    (mem : (v, w) ∈ (entries.map Prod.snd).zip (others.map Prod.snd)) (h : Facing a b v w) :
    Facing a b (.map entries) (.map others)

theorem beq_list_iff {items others : List Value} : (list items).beq (list others) = true ↔
    List.Forall₂ (fun v w => v.beq w = true) items others := by
  change Value.beqItems items others = true ↔ _
  induction items generalizing others with
  | nil => cases others <;> simp [Value.beqItems]
  | cons v items ih => cases others <;> simp [Value.beqItems, ih]

theorem beq_map_iff {entries others : List (String × Value)} : (map entries).beq (map others) = true ↔
    entries.map Prod.fst = others.map Prod.fst ∧
      List.Forall₂ (fun v w => v.beq w = true) (entries.map Prod.snd) (others.map Prod.snd) := by
  change Value.beqEntries entries others = true ↔ _
  induction entries generalizing others with
  | nil => cases others <;> simp [Value.beqEntries]
  | cons e entries ih =>
    cases others with
    | nil => simp [Value.beqEntries]
    | cons e' others =>
      simp only [Value.beqEntries, Bool.and_eq_true, beq_iff_eq, ih, List.map_cons, List.cons.injEq,
        List.forall₂_cons]
      exact and_and_and_comm

theorem beq_object_iff {o o' : HostObject} :
    (object o).beq (object o') = true ↔ o.identity = o'.identity := beq_iff_eq

theorem matches_of_beq {v w : Value} (h : v.beq w = true) : v.Matches w := by
  cases v <;> cases w <;> try contradiction
  case bool => exact beq_iff_eq.1 h ▸ .bool _
  case int => exact beq_iff_eq.1 h ▸ .int _
  case float => exact .float h
  case string => exact beq_iff_eq.1 h ▸ .string _
  case list => exact .list (beq_list_iff.1 h).length_eq
  case map => exact .map (beq_map_iff.1 h).1
  case object => exact .object (beq_object_iff.1 h)

theorem beq_symm {v w : Value} (h : v.beq w = true) : w.beq v = true := by
  induction v using Value.induct generalizing w with
  | list items ih =>
    cases matches_of_beq h
    rw [beq_list_iff] at *
    exact forall₂_symm_of_mem (fun v hv _ => ih v hv) h
  | map entries ih =>
    cases matches_of_beq h
    rw [beq_map_iff] at *
    exact ⟨h.1.symm, forall₂_symm_of_mem (fun v hv _ => ih v hv) h.2⟩
  | float x =>
    cases matches_of_beq h
    exact (Binary64.beq_comm _ x).trans h
  | object o =>
    cases matches_of_beq h with
    | object same => exact beq_object_iff.2 same.symm
  | _ =>
    cases matches_of_beq h
    exact h

theorem beq_trans {v w x : Value} (hvw : v.beq w = true) (hwx : w.beq x = true) : v.beq x = true := by
  induction v using Value.induct generalizing w x with
  | list items ih =>
    cases matches_of_beq hvw
    cases matches_of_beq hwx
    rw [beq_list_iff] at *
    exact forall₂_trans_of_mem (fun v hv _ _ => ih v hv) hvw hwx
  | map entries ih =>
    cases matches_of_beq hvw
    cases matches_of_beq hwx
    rw [beq_map_iff] at *
    exact ⟨hvw.1.trans hwx.1, forall₂_trans_of_mem (fun v hv _ _ => ih v hv) hvw.2 hwx.2⟩
  | float x =>
    cases matches_of_beq hvw
    cases matches_of_beq hwx
    exact Binary64.beq_trans hvw hwx
  | object o =>
    cases matches_of_beq hvw with
    | object same =>
      cases matches_of_beq hwx with
      | object same' => exact beq_object_iff.2 (same.trans same')
  | _ =>
    cases matches_of_beq hvw
    exact hwx

theorem part_float_iff {x : Binary64} {part : Value} : Part part (.float x) ↔ part = .float x :=
  ⟨fun h => by cases h; rfl, fun h => h ▸ .self⟩

theorem beq_self_iff {v : Value} : v.beq v = true ↔ ¬Part (.float .nan) v := by
  induction v using Value.induct with
  | list items ih =>
    rw [beq_list_iff, List.forall₂_same, part_list_iff]
    simp only [reduceCtorEq, false_or, not_exists, not_and]
    exact forall₂_congr fun v hv => ih v hv
  | map entries ih =>
    rw [beq_map_iff, List.forall₂_same, part_map_iff]
    simp only [true_and, reduceCtorEq, false_or, not_exists, not_and]
    exact forall₂_congr fun v hv => ih v hv
  | float x =>
    rw [part_float_iff]
    refine (Binary64.beq_self x).trans (not_congr ?_)
    rw [Value.float.injEq, eq_comm]
  | _ => exact iff_of_true (by simp [Value.beq]) (fun h => nomatch h)

theorem matches_of_facing {a b v w : Value} (facing : Facing a b v w) (h : v.beq w = true) :
    a.Matches b := by
  induction facing with
  | self => exact matches_of_beq h
  | item mem _ ih => exact ih ((List.forall₂_iff_zip.1 (beq_list_iff.1 h)).2 mem)
  | entry mem _ ih => exact ih ((List.forall₂_iff_zip.1 (beq_map_iff.1 h).2).2 mem)

theorem beq_of_facing {v w : Value} (h : ∀ a b, Facing a b v w → a.Matches b) : v.beq w = true := by
  induction v using Value.induct generalizing w with
  | list items ih =>
    cases h _ _ .self with
    | list hlength =>
      refine beq_list_iff.2 (List.forall₂_iff_zip.2 ⟨hlength, fun hmem => ?_⟩)
      exact ih _ (List.of_mem_zip hmem).1 fun a b facing => h a b (.item hmem facing)
  | map entries ih =>
    cases h _ _ .self with
    | map hkeys =>
      have hlength := congrArg List.length hkeys
      rw [List.length_map, List.length_map] at hlength
      refine beq_map_iff.2 ⟨hkeys, List.forall₂_iff_zip.2 ⟨by simpa using hlength, fun hmem => ?_⟩⟩
      exact ih _ (List.of_mem_zip hmem).1 fun a b facing => h a b (.entry hmem facing)
  | float x =>
    cases h _ _ .self with
    | float hxy => exact hxy
  | object o =>
    cases h _ _ .self with
    | object same => exact beq_object_iff.2 same
  | _ =>
    cases h _ _ .self
    simp [Value.beq]

structure SameType (v w : Value) : Prop where
  runtimeType : v.runtimeType = w.runtimeType
  descriptor : v.descriptor = w.descriptor
  exit : exitDescriptor (some v) = exitDescriptor (some w)
  accepts : ∀ d : Descriptor, d.accepts v = d.accepts w
  cast : ∀ d, checkCast d (some v) = checkCast d (some w)

theorem Matches.sameType {v w : Value} (h : v.Matches w) : SameType v w := by
  have hruntime : v.runtimeType = w.runtimeType := by
    cases h with
    | object same => exact congrArg Prod.snd same
    | _ => rfl
  have hdescriptor : v.descriptor = w.descriptor := by
    cases h with
    | object same => exact congrArg Descriptor.object (congrArg Prod.snd same)
    | _ => rfl
  have hpublic : v.isPublic = w.isPublic := congrArg (fun type => type.visibility == .visible) hruntime
  have haccepts (d : Descriptor) : d.accepts v = d.accepts w := by
    cases h with
    | object same =>
      cases d with
      | object type => exact congrArg (type.name == ObjectType.name ·) hruntime
      | _ => rfl
    | _ => cases d <;> rfl
  refine ⟨hruntime, hdescriptor, ?_, haccepts, fun d => ?_⟩
  · simp only [exitDescriptor, hpublic, hdescriptor]
  · simp only [checkCast, hruntime, haccepts]

/-- Equality is symmetric and transitive, and reflexive on the values that hold nothing that is not a
number. Equal values pass and fail the same casts. -/
theorem beq_is_partial_equivalence :
    (∀ v w : Value, v.beq w = w.beq v) ∧
    (∀ v w x : Value, v.beq w = true → w.beq x = true → v.beq x = true) ∧
    (∀ v : Value, v.beq v = true ↔ ¬Part (.float .nan) v) ∧
    (∀ v w : Value, v.beq w = true ↔ ∀ a b, Facing a b v w → a.Matches b) ∧
    (∀ (o : HostObject) (v : Value),
      (object o).beq v = true ↔ ∃ o', v = .object o' ∧ o.identity = o'.identity) ∧
    ∀ v w : Value, v.beq w = true → SameType v w := by
  refine ⟨fun v w => Bool.eq_iff_iff.2 ⟨beq_symm, beq_symm⟩, fun _ _ _ => beq_trans, fun _ => beq_self_iff,
    fun v w => ⟨fun h a b facing => matches_of_facing facing h, beq_of_facing⟩,
    fun o v => ⟨fun h => ?_, ?_⟩,
    fun v w h => (matches_of_beq h).sameType⟩
  · cases matches_of_beq h with
    | object same => exact ⟨_, rfl, same⟩
  · rintro ⟨o', rfl, same⟩
    exact beq_object_iff.2 same

theorem beq_is_partial_equivalence_nested :
    let account (serial : Nat) (members : Option (List (String × Json))) : Value :=
      .object ⟨serial, ⟨"Account", .restricted⟩, members⟩
    let v : Value := .map [("a", .list [.float (.zero false), account 1 none]), ("b", .int 1)]
    let w : Value := .map [("a", .list [.float (.zero true), account 1 (some [])]), ("b", .int 1)]
    let other : Value := .list [account 2 none]
    (v.beq w = true ∧ v ≠ w ∧ w.beq v = true ∧ v.beq v = true ∧ SameType v w) ∧
      (Value.list [account 1 none]).beq other = false ∧
      (Value.list [.map [("", .float .nan)]]).beq (.list [.map [("", .float .nan)]]) = false := by
  intro account v w other
  obtain ⟨hsymm, htrans, hself, -, -, htypes⟩ := beq_is_partial_equivalence
  have hvw : v.beq w = true := by decide
  have hne : v ≠ w := by simp [v, w, Binary64.zero, Binary64.Finite.zero]
  have hwv : w.beq v = true := by rw [hsymm, hvw]
  refine ⟨⟨hvw, hne, hwv, htrans v w v hvw hwv, htypes v w hvw⟩, by decide, ?_⟩
  refine Bool.eq_false_iff.2 fun h => (hself _).1 h ?_
  exact .item (.head _) (.entry (.head _) .self)

end Value
end Sigil
