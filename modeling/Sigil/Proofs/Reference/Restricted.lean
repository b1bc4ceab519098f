import Sigil.Proofs.Program.Check
import Sigil.Proofs.Reference.Tiers

/-! Restricted objects in compiled code. They come out of it under `any`, but for one case: where the type
recorded last was that of a visible object, a restricted object whose type has the same name passes
the cast to it, since the cast goes by the name. -/

namespace Sigil

variable {σ : Type}

/-- The value is a restricted object, and the type the visible one that has the name of its own. -/
def Descriptor.IsNamesake (d : Descriptor) (v : Value) : Prop :=
  ∃ o, v = .object o ∧ o.type.visibility = .restricted ∧ d = .object ⟨o.type.name, .visible⟩

theorem Value.isAccessible_descriptor (v : Value) : v.descriptor.isAccessible = v.isPublic := by
  cases v <;> rfl

namespace Descriptor

theorem object_accepts {name : String} {v : Value} (h : (object ⟨name, .visible⟩).accepts v = true) :
    object ⟨name, .visible⟩ = v.descriptor ∨ (object ⟨name, .visible⟩).IsNamesake v := by
  cases v with
  | object o =>
    obtain ⟨serial, ⟨name', visibility⟩, members⟩ := o
    have hname : name = name' := by simpa [accepts] using h
    subst hname
    cases visibility with
    | visible => exact .inl rfl
    | restricted => exact .inr ⟨_, rfl, rfl, rfl⟩
  | _ => contradiction

theorem accepts_iff {d : Descriptor} {v : Value} (accessible : d.isAccessible = true) :
    d.accepts v = true ↔ d = .any ∨ d = v.descriptor ∨ d.IsNamesake v := by
  constructor
  · intro h
    cases d with
    | any => exact .inl rfl
    | object type =>
      obtain ⟨name, visible | restricted⟩ := type
      · exact .inr (object_accepts h)
      · contradiction
    | _ => cases v <;> first | contradiction | exact .inr (.inl rfl)
  · rintro (rfl | rfl | ⟨o, rfl, -, rfl⟩)
    · cases v <;> rfl
    · exact accepts_descriptor v
    · simp [accepts]

theorem IsNamesake.isAccessible {d : Descriptor} {v : Value} (h : d.IsNamesake v) :
    d.isAccessible = true := by
  obtain ⟨o, -, -, rfl⟩ := h
  rfl

theorem checkCast_some_eq_ok {d : Descriptor} {v : Value} :
    checkCast d (some v) = .ok () ↔ d.isAccessible = true ∧ d.accepts v = true := by
  rcases d.restricted_or_isAccessible with ⟨name, rfl⟩ | ⟨accessible, -⟩
  · constructor
    · nofun
    · rintro ⟨accessible, -⟩
      contradiction
  · rw [checkCast_of_isAccessible accessible, pass]
    by_cases haccepts : d.accepts v = true <;> simp [accessible, haccepts, Except.map]

theorem accepts_of_pass {d : Descriptor} {v : Value} {w : Option Value} (h : d.pass (some v) = .ok w) :
    d.accepts v = true := by
  simp only [pass] at h
  split at h
  · assumption
  · contradiction

theorem checkCast_eq_ok_iff {d : Descriptor} {v : Value} :
    checkCast d (some v) = .ok () ↔
      d = .any ∨ (d = v.descriptor ∧ v.isPublic = true) ∨ d.IsNamesake v := by
  rw [checkCast_some_eq_ok, ← v.isAccessible_descriptor]
  constructor
  · rintro ⟨accessible, haccepts⟩
    rcases (accepts_iff accessible).1 haccepts with hany | rfl | hnamesake
    · exact .inl hany
    · exact .inr (.inl ⟨rfl, accessible⟩)
    · exact .inr (.inr hnamesake)
  · rintro (rfl | ⟨rfl, accessible⟩ | hnamesake)
    · exact ⟨rfl, by cases v <;> rfl⟩
    · exact ⟨accessible, accepts_descriptor v⟩
    · exact ⟨hnamesake.isAccessible, (accepts_iff hnamesake.isAccessible).2 (.inr (.inr hnamesake))⟩

end Descriptor

namespace Reference

theorem exists_recorded_of_exit {ident : Identifier} {history : List Occasion} {d : Descriptor}
    (h : ((ofIdentifier ident).after history).exit = some d) :
    ∃ o ∈ history, o.recorded ident.name = some d := by
  rw [exit_after] at h
  simp only [ofIdentifier, Option.or_none] at h
  obtain ⟨o, ho, hrecorded⟩ := List.exists_of_findSome?_eq_some h
  exact ⟨o, List.mem_reverse.1 ho, hrecorded⟩

theorem pass_of_run {r : Reference} {config : Config} {exit : Descriptor}
    (distinct : config.contextSlot ≠ config.namespaceSlot) (accessible : exit.isAccessible = true)
    {ns : Namespace σ} {context t : TypedValue} {s : σ}
    (h : ((r.program config exit).run ns context s).1 = .ok t) :
    exit.pass t.value = .ok t.value ∧ t.declared = some exit := by
  rw [run_program_fst distinct accessible] at h
  generalize (r.name.obtain config.unbound ns context s).1 = obtained at h
  cases obtained with
  | error e => contradiction
  | ok v =>
    change (exit.pass v).map (fun v => (⟨v, some exit⟩ : TypedValue)) = .ok t at h
    cases hpass : exit.pass v with
    | error e =>
      rw [hpass] at h
      contradiction
    | ok w =>
      rw [hpass] at h
      cases h
      cases Descriptor.eq_of_pass hpass
      exact ⟨hpass, rfl⟩

/-- A restricted object comes out of compiled code under `any`, unless an evaluation before the
compilation recorded the visible namesake of its type. -/
theorem exit_of_run_restricted (ident : Identifier) (history : List Occasion) (config : Config)
    (p : Program)
    (compiled : Program.compile ((ofIdentifier ident).after history).codeSource config = .ok p)
    (ns : Namespace σ) (context : TypedValue) (s : σ) :
    (∀ t v, (p.run ns context s).1 = .ok t → t.value = some v → v.isPublic = false →
      t.declared = some p.exit ∧
        (p.exit = .any ∨
          p.exit.IsNamesake v ∧ ∃ o ∈ history, o.recorded ident.name = some p.exit)) ∧
      ∀ d v, d ≠ .any →
        (checkCast d (some v) = .ok () ↔
          (d = v.descriptor ∧ v.isPublic = true) ∨ d.IsNamesake v) := by
  refine ⟨?_, ?_⟩
  · intro t v returned present restricted
    obtain ⟨distinct, exit, hexit, rfl⟩ := compile_eq_ok_iff.1 compiled
    have accessible : exit.isAccessible = true := isAccessible_exit_after hexit
    obtain ⟨hpass, hdeclared⟩ := pass_of_run distinct accessible returned
    rw [present] at hpass
    refine ⟨hdeclared, ?_⟩
    rcases (Descriptor.accepts_iff accessible).1 (Descriptor.accepts_of_pass hpass) with
      hany | rfl | hnamesake
    · exact .inl hany
    · -- A type of the value's own would be restricted, and no such type is recorded.
      rw [v.isAccessible_descriptor, restricted] at accessible
      contradiction
    · exact .inr ⟨hnamesake, exists_recorded_of_exit hexit⟩
  · intro d v hany
    rw [Descriptor.checkCast_eq_ok_iff]
    exact or_iff_right hany

theorem restricted_namesake_narrowed :
    -- Evaluated to a visible account, compiled, and run on a restricted one.
    let ident : Identifier := ⟨.named "x" (by decide), .unlocated⟩
    let visible : Value := .object ⟨1, ⟨"Account", .visible⟩, none⟩
    let restricted : Value := .object ⟨2, ⟨"Account", .restricted⟩, none⟩
    let occasion : Occasion := ⟨.standard, .ofList [("x", .ofValue visible)] false, ⟨.null, [], {}⟩⟩
    let rebound : Store := .ofList [("x", .ofValue restricted)] false
    restricted.isPublic = false ∧ visible.descriptor ≠ restricted.descriptor ∧
      checkCast visible.descriptor (some restricted) = .ok () ∧
      ∃ p, Program.compile ((ofIdentifier ident).after [occasion]).codeSource {} = .ok p ∧
        p.exit ≠ .any ∧
        (p.run .standard .null rebound).1 = .ok ⟨some restricted, some visible.descriptor⟩ := by
  intro ident visible restricted occasion rebound
  exact ⟨rfl, by decide, rfl, ((ofIdentifier ident).after [occasion]).program {} visible.descriptor,
    rfl, by decide, rfl⟩

theorem exit_of_run_restricted_rebound :
    let ident : Identifier := ⟨.named "x" (by decide), .unlocated⟩
    let account (visibility : Visibility) : Value := .object ⟨1, ⟨"Account", visibility⟩, none⟩
    let bound (visibility : Visibility) : Store := .ofList [("x", .ofValue (account visibility))] false
    let occasion (visibility : Visibility) : Occasion := ⟨.standard, bound visibility, ⟨.null, [], {}⟩⟩
    let program (visibility : Visibility) : Program :=
      ((ofIdentifier ident).after [occasion visibility]).program {}
        (exitDescriptor (some (account visibility)))
    (program .visible).exit.IsNamesake (account .restricted) ∧ (program .restricted).exit = .any ∧
      ((program .restricted).run .standard .null (bound .restricted)).1 =
        .ok ⟨some (account .restricted), some .any⟩ := by
  intro ident account bound occasion program
  have visible := (exit_of_run_restricted ident [occasion .visible] {} (program .visible) rfl .standard
    .null (bound .restricted)).1 _ (account .restricted) rfl rfl rfl
  have restricted := (exit_of_run_restricted ident [occasion .restricted] {} (program .restricted) rfl
    .standard .null (bound .restricted)).1 _ (account .restricted) rfl rfl rfl
  refine ⟨?_, ?_, rfl⟩
  · rcases visible.2 with hany | ⟨hnamesake, -⟩
    · contradiction
    · exact hnamesake
  · rcases restricted.2 with hany | ⟨⟨o, ho, -, hexit⟩, -⟩
    · exact hany
    · contradiction

end Reference
end Sigil
