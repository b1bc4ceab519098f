import Sigil.Proofs.Config.Settings
import Sigil.Proofs.Program.Reached
import Sigil.Proofs.Reference.Code

/-! Settings as calls make them. The slots of all settings that calls return differ, and so nothing is refused
for their slots, and they are read back from their own text. Settings with equal slots are refused wherever
slots count. -/

namespace Sigil

namespace Instruction

variable {σ : Type}

theorem checkCast_ne_slotConflict (type : Descriptor) (v : Option Value) (slot : Slot) :
    checkCast type v ≠ .error (.slotConflict slot) := by
  unfold checkCast
  split
  · simp
  · cases v with
    | none => simp
    | some v =>
      simp only
      split <;> simp

theorem exists_asks_of_slotConflict {config : Config} {ns : Namespace σ} {context : TypedValue}
    {i : Instruction} {stack : List Operand} {s : σ} {slot : Slot}
    (h : (execute config ns context i stack s).1 = .error (.slotConflict slot)) :
    ∃ name, i.asks stack = some name ∧ (ns.lookup name s).1 = .error (.slotConflict slot) := by
  cases i with
  | load slot' =>
    simp only [execute] at h
    split_ifs at h
    simp at h
  | push text => simp [execute] at h
  | cast type =>
    rcases stack with _ | ⟨v | _ | _, rest⟩
    case cons.value =>
      refine absurd ?_ (checkCast_ne_slotConflict type v slot)
      simp only [execute] at h
      cases hcheck : checkCast type v with
      | ok => simp [hcheck, Except.map] at h
      | error e => simpa [hcheck, Except.map] using h
    all_goals simp [execute] at h
  | lookup =>
    cases hasks : lookup.asks stack with
    | none =>
      rw [execute_lookup_of_asks_eq_none hasks] at h
      simp at h
    | some name =>
      obtain ⟨-, rest, rfl⟩ := asks_eq_some_iff.1 hasks
      refine ⟨name, rfl, ?_⟩
      simp only [execute] at h
      rcases hlookup : ns.lookup name s with ⟨e | _ | t, s'⟩
      · simpa [hlookup] using h
      · cases hunbound : config.unbound <;> simp [hlookup, hunbound] at h
      · simp [hlookup] at h

end Instruction

namespace Config

inductive Update where
  | unbound (policy : UnboundPolicy)
  | slots (context space : Slot)
  | parse (text : String)

def Update.perform (config : Config) : Update → Except Error Config
  | .unbound policy => .ok (config.withUnbound policy)
  | .slots context space => (config.withSlots context space).mapError .slotConflict
  | .parse text => Config.parse text

def performAll (config : Config) (updates : List Update) : Except Error Config :=
  updates.foldlM Update.perform config

theorem distinct_of_perform {config config' : Config} {update : Update}
    (distinct : config.contextSlot ≠ config.namespaceSlot) (h : update.perform config = .ok config') :
    config'.contextSlot ≠ config'.namespaceSlot := by
  cases update with
  | unbound policy =>
    cases h
    exact distinct
  | slots context space =>
    obtain ⟨hdistinct, rfl⟩ := validate_eq_ok.1 (eq_ok_of_mapError h)
    exact hdistinct
  | parse text => exact distinct_of_parse h

theorem distinct_of_performAll {config config' : Config} {updates : List Update}
    (distinct : config.contextSlot ≠ config.namespaceSlot) (h : config.performAll updates = .ok config') :
    config'.contextSlot ≠ config'.namespaceSlot := by
  induction updates generalizing config with
  | nil =>
    cases h
    exact distinct
  | cons update updates ih =>
    rw [performAll, List.foldlM_cons] at h
    cases hstep : update.perform config with
    | error e =>
      rw [hstep] at h
      contradiction
    | ok next =>
      rw [hstep] at h
      exact ih (distinct_of_perform distinct hstep) h

/-- The slots stand in the way of nothing: the check of them passes, no reference is refused for them and no
run but by the namespace itself, and the text of the settings is read as them. -/
structure Usable (config : Config) : Prop where
  distinct : config.contextSlot ≠ config.namespaceSlot
  checked : Program.checkSlots config = .ok ()
  compiles : ∀ (r : Reference) (slot : Slot),
    Program.compile r.codeSource config ≠ .error (.slotConflict slot)
  runs : ∀ {σ : Type} (ns : Namespace σ) (p : Program) (context : TypedValue) (s : σ) (slot : Slot),
    p.config = config → (p.run ns context s).1 = .error (.slotConflict slot) →
      ∃ m ∈ p.reached ns context s, ∃ name,
        m.asks = some name ∧ (ns.lookup name m.store).1 = .error (.slotConflict slot)
  read : Config.parse config.text = .ok config

structure Refused (config : Config) : Prop where
  compiles : ∀ source, Program.compile source config = .error (.slotConflict config.contextSlot)
  runs : ∀ {σ : Type} (ns : Namespace σ) (p : Program) (context : TypedValue) (s : σ),
    p.config = config → p.run ns context s = (.error (.slotConflict config.contextSlot), s)
  read : Config.parse config.text = .error (.slotConflict config.contextSlot)

theorem validate_of_distinct {config : Config} (h : config.contextSlot ≠ config.namespaceSlot) :
    config.validate = .ok config := validate_eq_ok.2 ⟨h, rfl⟩

theorem validate_of_clash {config : Config} (h : config.contextSlot = config.namespaceSlot) :
    config.validate = .error config.contextSlot := by
  simp [validate, conflict?, h]

theorem usable_of_distinct {config : Config} (distinct : config.contextSlot ≠ config.namespaceSlot) :
    Usable config where
  distinct := distinct
  checked := Program.checkSlots_eq_ok distinct
  compiles r slot := by
    rw [r.compile_codeSource distinct]
    cases r.exit <;> simp
  runs ns p context s slot hconfig hrun := by
    subst hconfig
    rcases p.run_cases ns context s with
      ⟨e, hcheck, -⟩ | ⟨earlier, last, e, s', hreached, -, hlast, hfails⟩ | ⟨stack, s', -, -, hends⟩
    · rw [Program.checkSlots_eq_ok distinct] at hcheck
      contradiction
    · have hslot : (last.execute p.config ns context).1 = .error (.slotConflict slot) := by
        rw [hfails] at hrun
        rw [hlast, Except.error.inj hrun]
      obtain ⟨name, hasks, hlookup⟩ := Instruction.exists_asks_of_slotConflict hslot
      exact ⟨last, by simp [hreached], name, hasks, hlookup⟩
    · rw [hends] at hrun
      unfold Program.result at hrun
      split at hrun <;> simp at hrun
  read := by rw [parse_text, validate_of_distinct distinct, Except.mapError]

theorem refused_of_clash {config : Config} (clash : config.contextSlot = config.namespaceSlot) :
    Refused config := by
  have hcheck : Program.checkSlots config = .error (.slotConflict config.contextSlot) := by
    simp [Program.checkSlots, conflict?, clash]
  refine ⟨fun source => by rw [Program.compile, hcheck], fun ns p context s hconfig => ?_, ?_⟩
  · rw [Program.run, hconfig, hcheck]
  · rw [parse_text, validate_of_clash clash, Except.mapError]

/-- Whatever calls that start from the default settings return is usable, and settings with equal slots
are refused everywhere. -/
theorem calls_return_usable :
    (∀ updates config, performAll {} updates = .ok config → Usable config) ∧
    (∀ config : Config, config.contextSlot = config.namespaceSlot → Refused config) ∧
    ∀ (text : String) (settings : List Setting),
      Json.IsObject text (settings.map Setting.member) → (settings.map Setting.field).Nodup →
      let config := settings.foldl set {}
      (config.contextSlot ≠ config.namespaceSlot → Config.parse text = .ok config) ∧
        (config.contextSlot = config.namespaceSlot →
          Config.parse text = .error (.slotConflict config.contextSlot)) := by
  refine ⟨fun updates config h => ?_, fun config => refused_of_clash,
    fun text settings object distinct => ?_⟩
  · exact usable_of_distinct (distinct_of_performAll (by decide) h)
  · intro config
    have hparse : Config.parse text = config.validate.mapError .slotConflict :=
      parse_of_isObject object distinct
    refine ⟨fun hdistinct => ?_, fun hclash => ?_⟩
    · rw [hparse, validate_of_distinct hdistinct, Except.mapError]
    · rw [hparse, validate_of_clash hclash, Except.mapError]

theorem calls_return_usable_defaulted :
    let clash := "\x7b\"namespace-slot\":1,\"unbound\":\"strict\"\x7d"
    let apart := "\x7b\"namespace-slot\":1,\"context-slot\":65535\x7d"
    Config.parse clash = .error (.slotConflict 1) ∧ Config.parse apart = .ok ⟨.lenient, 65535, 1⟩ ∧
      Usable ⟨.strict, 3, 4⟩ ∧ Refused ⟨.lenient, 7, 7⟩ := by
  intro clash apart
  obtain ⟨husable, hrefused, hobject⟩ := calls_return_usable
  have hclash : Json.IsObject clash ([.namespaceSlot 1, .unbound .strict].map Setting.member) :=
    isObject_of_memberTexts (by decide)
  have hapart : Json.IsObject apart ([.namespaceSlot 1, .contextSlot 65535].map Setting.member) :=
    isObject_of_memberTexts (by decide)
  have hread : Config.parse apart = .ok ⟨.lenient, 65535, 1⟩ :=
    (hobject apart _ hapart (by decide)).1 (by decide)
  refine ⟨(hobject clash _ hclash (by decide)).2 (by decide), hread, ?_, hrefused _ (by decide)⟩
  refine husable [.parse apart, .slots 3 4, .unbound .strict] _ ?_
  simp only [performAll, List.foldlM_cons, Update.perform, hread]
  rfl

end Config
end Sigil
