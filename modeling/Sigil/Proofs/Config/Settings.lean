import Mathlib.Data.List.Perm.Subperm
import Sigil.Config.Reader
import Sigil.Proofs.Json.Spelling

/-! Settings one by one, and the text of an object that holds some of them. Whatever their order and the
blanks between them, reading gives the default settings with these in place, unless the slots clash. -/

namespace Sigil

theorem eq_ok_of_mapError {ε δ α : Type} {f : ε → δ} {x : Except ε α} {a : α}
    (h : x.mapError f = .ok a) : x = .ok a := by
  cases x with
  | error e => contradiction
  | ok b => rw [Except.ok.inj h]

namespace Config

open Json (Cursor)

theorem distinct_of_parse {text : String} {config : Config} (h : parse text = .ok config) :
    config.contextSlot ≠ config.namespaceSlot := by
  unfold parse at h
  split at h
  · contradiction
  · next settings hsettings =>
    obtain ⟨distinct, rfl⟩ := validate_eq_ok.1 (eq_ok_of_mapError h)
    exact distinct

inductive Setting where
  | unbound (policy : UnboundPolicy)
  | contextSlot (slot : Slot)
  | namespaceSlot (slot : Slot)

namespace Setting

def field : Setting → Field
  | .unbound _ => .unbound
  | .contextSlot _ => .contextSlot
  | .namespaceSlot _ => .namespaceSlot

def json : Setting → Json
  | .unbound policy => .string policy.name
  | .contextSlot slot | .namespaceSlot slot => .number (.int slot.toNat)

def member (setting : Setting) : String × Json := (setting.field.name, setting.json)

end Setting

def set (config : Config) : Setting → Config
  | .unbound policy => { config with unbound := policy }
  | .contextSlot slot => { config with contextSlot := slot }
  | .namespaceSlot slot => { config with namespaceSlot := slot }

def Fields.put (f : Fields) : Setting → Fields
  | .unbound policy => { f with unbound := some policy }
  | .contextSlot slot => { f with contextSlot := some slot }
  | .namespaceSlot slot => { f with namespaceSlot := some slot }

theorem Fields.settings_put (f : Fields) (setting : Setting) :
    (f.put setting).settings = f.settings.set setting := by
  cases setting <;> rfl

theorem Fields.settings_foldl_put (settings : List Setting) (f : Fields) :
    (settings.foldl put f).settings = settings.foldl set f.settings := by
  induction settings generalizing f with
  | nil => rfl
  | cons setting settings ih => rw [List.foldl_cons, ih, settings_put, List.foldl_cons]

theorem Fields.has_put_of_ne {f : Fields} {setting : Setting} {field : Field} (h : field ≠ setting.field) :
    (f.put setting).has field = f.has field := by
  cases setting <;> cases field <;> first | rfl | exact absurd rfl h

theorem Field.ofName?_name (field : Field) : ofName? field.name = some field := by
  cases field <;> decide

@[simp] theorem json_ok {α : Type} (a : α) : json (.ok a) = .ok a := rfl

theorem readSlot_of_readValue {bound depth : Nat} {c last : Cursor} {slot : Slot}
    (h : Json.readValue (bound + 1) depth c = .ok (.number (.int slot.toNat), last)) :
    readSlot c = .ok (slot, last) := by
  have hrange : 0 ≤ (slot.toNat : Int) ∧ (slot.toNat : Int) < UInt16.size :=
    ⟨Int.natCast_nonneg _, Int.ofNat_lt.2 slot.toNat_lt⟩
  have hslot : UInt16.ofNat (slot.toNat : Int).toNat = slot := UInt16.ofNat_toNat
  rcases Json.readNumber_of_readValue h with ⟨hhead, hread⟩ | ⟨x, hdigit, hhead, hread⟩
  · obtain ⟨rest, hrest⟩ := List.head?_eq_some_iff.1 hhead
    simp only [readSlot, hrest, if_true, readSlot.number, hread, json_ok, hrange, and_self, hslot]
  · obtain ⟨rest, hrest⟩ := List.head?_eq_some_iff.1 hhead
    have hminus : x ≠ '-' := Json.ne_of_isDigit hdigit (by decide)
    simp only [readSlot, hrest, hminus, hdigit, if_true, if_false, readSlot.number, hread, json_ok, hrange,
      and_self, hslot]

theorem readPolicy_of_readValue {bound depth : Nat} {c last : Cursor} {policy : UnboundPolicy}
    (h : Json.readValue (bound + 1) depth c = .ok (.string policy.name, last)) :
    readPolicy c = .ok (policy, last) := by
  obtain ⟨hhead, hread⟩ := Json.readString_of_readValue h
  obtain ⟨rest, hrest⟩ := List.head?_eq_some_iff.1 hhead
  simp only [readPolicy, hrest, readPolicyName, hread, json_ok, UnboundPolicy.ofName?_name]

theorem readField_of_readValue {bound depth : Nat} {c last : Cursor} {setting : Setting}
    (h : Json.readValue bound depth c = .ok (setting.json, last)) (f : Fields) :
    readField f setting.field c = .ok (f.put setting, last) := by
  cases bound with
  | zero => simp [Json.readValue, Cursor.refuse] at h
  | succ bound =>
    cases setting with
    | unbound policy =>
      simp only [Setting.field, readField, readPolicy_of_readValue h, Except.map, Fields.put]
    | contextSlot slot | namespaceSlot slot =>
      simp only [Setting.field, readField, readSlot_of_readValue h, Except.map, Fields.put]

theorem readFields_of_readPairs {settings : List Setting} {bound depth steps : Nat} {first : Bool}
    {c last : Cursor} {f : Fields}
    (h : Json.readPairs bound depth first c = .ok (settings.map Setting.member, last))
    (distinct : (settings.map Setting.field).Nodup) (free : ∀ s ∈ settings, f.has s.field = false)
    (hsteps : settings.length < steps) :
    readFields steps first f c = .ok (settings.foldl Fields.put f, last) := by
  induction settings generalizing bound steps first c f with
  | nil =>
    obtain ⟨steps, rfl⟩ := Nat.exists_eq_add_one_of_ne_zero (Nat.ne_zero_of_lt hsteps)
    rcases Json.readPairs_cases h with ⟨-, hnext, rfl⟩ | ⟨_, _, _, _, _, _, _, hcons, -⟩
    · simp only [readFields, hnext, json_ok, List.foldl_nil]
    · contradiction
  | cons setting settings ih =>
    obtain ⟨steps, rfl⟩ := Nat.exists_eq_add_one_of_ne_zero (Nat.ne_zero_of_lt hsteps)
    rcases Json.readPairs_cases h with
      ⟨hnil, -⟩ | ⟨bound, m, behind, next, named, colon, after, hcons, hnext, hname, hcolon, hvalue, hbehind⟩
    · contradiction
    · rw [List.map_cons, List.cons.injEq] at hcons
      obtain ⟨rfl, rfl⟩ := hcons
      rw [List.map_cons, List.nodup_cons] at distinct
      obtain ⟨hfree, hrest⟩ := List.forall_mem_cons.1 free
      have hput : ∀ s ∈ settings, (f.put setting).has s.field = false := by
        intro s hs
        have hne : s.field ≠ setting.field := fun heq => distinct.1 (heq ▸ List.mem_map_of_mem hs)
        rw [Fields.has_put_of_ne hne, hrest s hs]
      have hread := ih hbehind distinct.2 hput (Nat.lt_of_succ_lt_succ hsteps)
      simp only [Setting.member] at hname hvalue
      simp only [readFields, hnext, hname, hcolon, json_ok, Field.ofName?_name, hfree,
        readField_of_readValue hvalue, hread, Bool.false_eq_true, if_false, List.foldl_cons]

theorem parse_of_isObject {text : String} {settings : List Setting}
    (object : Json.IsObject text (settings.map Setting.member))
    (distinct : (settings.map Setting.field).Nodup) :
    parse text = (settings.foldl set {}).validate.mapError .slotConflict := by
  obtain ⟨hbrace, last, hpairs, hend⟩ := object
  -- There are three fields, so the steps that reading allows are enough.
  have hlength : settings.length < 4 := by
    have hsubset : settings.map Setting.field ⊆ [.unbound, .contextSlot, .namespaceSlot] := by
      intro field _
      cases field <;> simp
    have hle := (distinct.subperm hsubset).length_le
    rw [List.length_map] at hle
    exact Nat.lt_succ_of_le hle
  have hfields : readFields 4 true {} (Cursor.start text).skipBlanks.next =
      .ok (settings.foldl Fields.put {}, last) :=
    readFields_of_readPairs hpairs distinct (fun s _ => by cases s <;> rfl) hlength
  obtain ⟨rest, hrest⟩ := List.head?_eq_some_iff.1 hbrace
  have hsettings : readSettings (.start text) = .ok (settings.foldl Fields.put {}, last) := by
    simp only [readSettings, hrest, hfields]
  have hread : readText text = .ok (settings.foldl set {}) := by
    have hdefault : (settings.foldl Fields.put {}).settings = settings.foldl set {} :=
      Fields.settings_foldl_put settings {}
    simp only [readText, hsettings, Json.readEnd_eq_ok_iff.2 ⟨rfl, hend⟩, json_ok, hdefault]
  rw [parse, hread]

def settings (config : Config) : List Setting :=
  [.unbound config.unbound, .contextSlot config.contextSlot, .namespaceSlot config.namespaceSlot]

def Setting.text : Setting → List Char
  | .unbound policy => '"' :: (policy.name.toList ++ ['"'])
  | .contextSlot slot | .namespaceSlot slot => Nat.toDigits 10 slot.toNat

def Setting.memberText (setting : Setting) : List Char :=
  '"' :: (setting.field.name.toList ++ '"' :: ':' :: setting.text)

theorem Setting.spells_text (setting : Setting) (depth : Nat) :
    Json.Spells depth setting.text setting.json := by
  have hslot (slot : Slot) : slot.toNat ≤ Json.maxSignificand :=
    (Nat.le_of_lt slot.toNat_lt).trans (by decide)
  cases setting with
  | unbound policy =>
    have hverbatim : Json.Verbatim policy.name := by cases policy <;> decide
    exact Json.spells_string hverbatim
  | contextSlot slot | namespaceSlot slot => exact Json.spells_nat (hslot slot)

theorem Field.verbatim_name (field : Field) : Json.Verbatim field.name := by
  cases field <;> decide

theorem Setting.spells_memberText (setting : Setting) (depth : Nat) :
    Json.SpellsMember [] depth setting.memberText setting.member where
  name := setting.field.verbatim_name
  value := ⟨setting.text, setting.spells_text depth, rfl⟩

theorem isObject_of_memberTexts {text : String} {settings : List Setting}
    (htext : text.toList = '\x7b' :: ([','].intercalate (settings.map Setting.memberText) ++ ['\x7d'])) :
    Json.IsObject text (settings.map Setting.member) := by
  have hparts : List.Forall₂ (Json.SpellsMember [] (Json.maxNesting - 1)) (settings.map Setting.memberText)
      (settings.map Setting.member) := by
    rw [List.forall₂_map_left_iff, List.forall₂_map_right_iff, List.forall₂_same]
    exact fun setting _ => setting.spells_memberText _
  exact Json.isObject_of_spells (by simp) hparts htext

theorem toList_text (config : Config) : config.text.toList =
    '\x7b' :: ([','].intercalate (config.settings.map Setting.memberText) ++ ['\x7d']) := by
  unfold text
  simp only [settings, Setting.memberText, Setting.text, Setting.field, Field.name, Nat.toString_eq_repr,
    Nat.toList_repr, String.toList_append, String.reduceToList, List.map_cons, List.map_nil,
    List.intercalate_cons_cons, List.intercalate_singleton, List.append_assoc, List.cons_append, List.nil_append]

theorem isObject_text (config : Config) :
    Json.IsObject config.text (config.settings.map Setting.member) := isObject_of_memberTexts config.toList_text

theorem parse_text (config : Config) : parse config.text = config.validate.mapError .slotConflict := by
  have hdistinct : (config.settings.map Setting.field).Nodup := by simp [settings, Setting.field]
  have hall : config.settings.foldl set {} = config := rfl
  rw [parse_of_isObject config.isObject_text hdistinct, hall]

end Config
end Sigil
