import Sigil.Proofs.Program.Check
import Sigil.Proofs.Reference.History

/-! Code of several references, emitted one after another. Each adds its code and its type to what is there,
and the code of all of them pushes their values on any stack, in order, and touches nothing below. -/

namespace Sigil

variable {σ : Type}

theorem Descriptor.pass_of_accepts {d : Descriptor} {v : Option Value}
    (h : ∀ w ∈ v, d.accepts w = true) : d.pass v = .ok v := by
  cases v with
  | none => rfl
  | some w => rw [pass, if_pos (h w rfl)]

namespace Reference

def IsEvaluated (r : Reference) : Prop := ∃ ident history, r = (ofIdentifier ident).after history

theorem IsEvaluated.isAccessible_exit {r : Reference} (h : r.IsEvaluated) {type : Descriptor}
    (hexit : r.exit = some type) : type.isAccessible = true := by
  obtain ⟨ident, history, rfl⟩ := h
  exact isAccessible_exit_after hexit

def generateAll : List Reference → Emission → Except EvalError Unit × Emission
  | [], em => (.ok (), em)
  | r :: rs, em =>
    match r.generate em with
    | (.error e, em) => (.error e, em)
    | (.ok (), em) => generateAll rs em

def fragment (context space : Slot) (r : Reference) : List Instruction :=
  match r.exit with
  | none => []
  | some type => r.name.code context space ++ type.castCode

theorem fragment_of_exit {r : Reference} {type : Descriptor} (h : r.exit = some type)
    (context space : Slot) : r.fragment context space = r.name.code context space ++ type.castCode := by
  rw [fragment, h]

theorem exists_exit {r : Reference} (h : r.isCompilable = true) : ∃ type, r.exit = some type :=
  Option.isSome_iff_exists.1 h

theorem generate_of_not_isCompilable {r : Reference} (h : r.isCompilable = false) (em : Emission) :
    r.generate em = (.error (.notCompilable r.display), em) := by
  have hexit : r.exit = none := by simpa [isCompilable] using h
  rw [generate, hexit]

theorem generateAll_of_isCompilable {rs : List Reference} (h : ∀ r ∈ rs, r.isCompilable = true)
    (em : Emission) :
    generateAll rs em =
      (.ok (), { em with
        code := em.code ++ rs.flatMap (fragment em.contextSlot em.namespaceSlot)
        leaves := (rs.filterMap exit).reverse ++ em.leaves }) := by
  induction rs generalizing em with
  | nil => simp [generateAll]
  | cons r rs ih =>
    obtain ⟨hr, hrs⟩ := List.forall_mem_cons.1 h
    obtain ⟨type, htype⟩ := exists_exit hr
    rw [generateAll, generate_eq htype]
    simp only [ih hrs, List.flatMap_cons, fragment_of_exit htype, List.filterMap_cons, htype,
      List.reverse_cons, List.append_assoc, List.singleton_append]

theorem generateAll_append (rs later : List Reference) (em : Emission) :
    generateAll (rs ++ later) em =
      match generateAll rs em with
      | (.error e, em) => (.error e, em)
      | (.ok (), em) => generateAll later em := by
  induction rs generalizing em with
  | nil => rfl
  | cons r rs ih =>
    simp only [List.cons_append, generateAll]
    split
    · rfl
    · exact ih _

theorem map_some_filterMap_exit {rs : List Reference} (h : ∀ r ∈ rs, r.isCompilable = true) :
    (rs.filterMap exit).map some = rs.map exit := by
  induction rs with
  | nil => rfl
  | cons r rs ih =>
    obtain ⟨hr, hrs⟩ := List.forall_mem_cons.1 h
    obtain ⟨type, htype⟩ := exists_exit hr
    rw [List.filterMap_cons, htype, List.map_cons, List.map_cons, ih hrs, htype]

theorem cast_mem_fragment {r : Reference} (hr : r.IsEvaluated) {context space : Slot} {type : Descriptor}
    (h : .cast type ∈ r.fragment context space) : type ≠ .any ∧ type.isAccessible = true := by
  cases hexit : r.exit with
  | none =>
    rw [fragment, hexit] at h
    contradiction
  | some exit =>
    rw [fragment_of_exit hexit, List.mem_append] at h
    rcases h with hname | hcast
    · cases hr : r.name <;> simp [hr, VariableName.code] at hname
    · unfold Descriptor.castCode at hcast
      split at hcast
      · contradiction
      · next hany =>
        cases List.mem_singleton.1 hcast
        exact ⟨fun heq => hany (Descriptor.isAny_iff.2 heq), hr.isAccessible_exit hexit⟩

/-- The values of references are obtained one after another, and the exit type of each accepts what is
obtained. -/
inductive Obtained (policy : UnboundPolicy) (ns : Namespace σ) (context : TypedValue) :
    List Reference → σ → List (Option Value) → σ → Prop
  | nil (s : σ) : Obtained policy ns context [] s [] s
  | cons {r : Reference} {rs : List Reference} {v : Option Value} {vs : List (Option Value)}
    {s s' s'' : σ} (obtained : r.name.obtain policy ns context s = (.ok v, s'))
    (accepted : ∀ type ∈ r.exit, ∀ w ∈ v, type.accepts w = true)
    (rest : Obtained policy ns context rs s' vs s'') :
    Obtained policy ns context (r :: rs) s (v :: vs) s''

theorem executeAll_fragment {r : Reference} (hr : r.IsEvaluated) (signed : r.isCompilable = true)
    {config : Config} (distinct : config.contextSlot ≠ config.namespaceSlot) {ns : Namespace σ}
    {context : TypedValue} {s s' : σ} {v : Option Value}
    (obtained : r.name.obtain config.unbound ns context s = (.ok v, s'))
    (accepted : ∀ type ∈ r.exit, ∀ w ∈ v, type.accepts w = true) (stack : List Operand) :
    Instruction.executeAll config ns context (r.fragment config.contextSlot config.namespaceSlot) stack s =
      (.ok (.value v :: stack), s') := by
  obtain ⟨type, htype⟩ := exists_exit signed
  have hpass : type.pass v = .ok v := Descriptor.pass_of_accepts (accepted type htype)
  rw [fragment_of_exit htype, Instruction.executeAll_append, Instruction.executeAll_code distinct, obtained]
  simp only [Instruction.executeAll_castCode (hr.isAccessible_exit htype), hpass]
  rfl

namespace Obtained

variable {policy : UnboundPolicy} {config : Config} {ns : Namespace σ} {context : TypedValue}
  {rs : List Reference} {s s' : σ} {values : List (Option Value)}

theorem length_eq (h : Obtained policy ns context rs s values s') : values.length = rs.length := by
  induction h with
  | nil s => rfl
  | cons obtained accepted rest ih => rw [List.length_cons, List.length_cons, ih]

theorem executeAll (h : Obtained config.unbound ns context rs s values s')
    (evaluated : ∀ r ∈ rs, r.IsEvaluated) (signed : ∀ r ∈ rs, r.isCompilable = true)
    (distinct : config.contextSlot ≠ config.namespaceSlot) (stack : List Operand) :
    Instruction.executeAll config ns context
        (rs.flatMap (fragment config.contextSlot config.namespaceSlot)) stack s =
      (.ok ((values.map Operand.value).reverse ++ stack), s') := by
  -- The first reference pushes on the given stack, so the induction is over all stacks.
  induction h generalizing stack with
  | nil s => rfl
  | cons obtained accepted rest ih =>
    obtain ⟨hevaluated, evaluated⟩ := List.forall_mem_cons.1 evaluated
    obtain ⟨hsigned, signed⟩ := List.forall_mem_cons.1 signed
    rw [List.flatMap_cons, Instruction.executeAll_append,
      executeAll_fragment hevaluated hsigned distinct obtained accepted]
    simp only [ih evaluated signed, List.map_cons, List.reverse_cons, List.append_assoc,
      List.singleton_append]

theorem run (h : Obtained config.unbound ns context rs s values s')
    (evaluated : ∀ r ∈ rs, r.IsEvaluated) (signed : ∀ r ∈ rs, r.isCompilable = true)
    (distinct : config.contextSlot ≠ config.namespaceSlot) (source : String) (exit : Descriptor) :
    Program.run ⟨source, rs.flatMap (fragment config.contextSlot config.namespaceSlot), exit, config⟩ ns
        context s =
      (Program.result exit (values.map Operand.value).reverse, s') := by
  rw [Program.run, Program.checkSlots_eq_ok distinct]
  simp only [h.executeAll evaluated signed distinct, List.append_nil]

end Obtained

/-- Code of references composes on the stack: it stands behind what was emitted before, and run where
every value is obtained and accepted it leaves these values on top, in order. -/
theorem fragments_compose (rs : List Reference) (evaluated : ∀ r ∈ rs, r.IsEvaluated)
    (signed : ∀ r ∈ rs, r.isCompilable = true) (em : Emission) :
    (∃ (code : List Instruction) (types : List Descriptor),
      generateAll rs em =
          (.ok (), { em with code := em.code ++ code, leaves := types.reverse ++ em.leaves }) ∧
        types.map some = rs.map exit ∧
        (∀ type, .cast type ∈ code → type ≠ .any ∧ type.isAccessible = true) ∧
        ∀ config : Config, config.contextSlot = em.contextSlot →
          config.namespaceSlot = em.namespaceSlot → config.contextSlot ≠ config.namespaceSlot →
            ∀ {σ : Type} (ns : Namespace σ) (context : TypedValue) (s s' : σ)
              (values : List (Option Value)), Obtained config.unbound ns context rs s values s' →
              values.length = rs.length ∧
                (∀ stack, Instruction.executeAll config ns context code stack s =
                  (.ok ((values.map Operand.value).reverse ++ stack), s')) ∧
                ∀ source exit,
                  (∀ v, values = [v] → Program.run ⟨source, code, exit, config⟩ ns context s =
                    (.ok ⟨v, some exit⟩, s')) ∧
                  (rs.length ≠ 1 → Program.run ⟨source, code, exit, config⟩ ns context s =
                    (.error (.stackImbalance rs.length), s'))) ∧
      ∀ r : Reference, r.isCompilable = false →
        r.generate em = (.error (.notCompilable r.display), em) ∧
          ∀ later, generateAll (rs ++ r :: later) em =
            (.error (.notCompilable r.display), (generateAll rs em).2) := by
  refine ⟨⟨rs.flatMap (fragment em.contextSlot em.namespaceSlot), rs.filterMap exit,
    generateAll_of_isCompilable signed em, map_some_filterMap_exit signed, ?_, ?_⟩, ?_⟩
  · intro type h
    obtain ⟨r, hr, hcast⟩ := List.mem_flatMap.1 h
    exact cast_mem_fragment (evaluated r hr) hcast
  · intro config hcontext hspace distinct σ ns context s s' values obtained
    have hlength : values.length = rs.length := obtained.length_eq
    rw [← hcontext, ← hspace]
    refine ⟨hlength, obtained.executeAll evaluated signed distinct, fun source exit => ⟨?_, ?_⟩⟩
    · rintro v rfl
      exact obtained.run evaluated signed distinct source exit
    · intro hne
      have hkinds : (values.map Operand.value).reverse.map Operand.kind ≠ [.value] := by
        intro h
        have := congrArg List.length h
        simp only [List.length_map, List.length_reverse, List.length_singleton, hlength] at this
        exact hne this
      rw [obtained.run evaluated signed distinct source exit, Program.result_of_kind_ne hkinds]
      simp only [List.length_reverse, List.length_map, hlength]
  · intro r hr
    refine ⟨generate_of_not_isCompilable hr em, fun later => ?_⟩
    rw [generateAll_append, generateAll_of_isCompilable signed]
    simp only [generateAll, generate_of_not_isCompilable hr]

theorem fragments_compose_behind :
    let x : Identifier := ⟨.named "x" (by decide), .unlocated⟩
    let account : TypedValue := .ofValue (.object ⟨1, ⟨"Account", .restricted⟩, none⟩)
    let bound : Store := .ofList [("x", .ofValue (.int 2))] false
    let occasion : Occasion := ⟨.standard, bound, ⟨account, [], {}⟩⟩
    let rs : List Reference :=
      [(ofIdentifier x).after [occasion], (ofIdentifier ⟨.root, .unlocated⟩).after [occasion]]
    let config : Config := ⟨.strict, 9, 4⟩
    let em : Emission := ⟨[.push "name"], 9, 4, [.string]⟩
    (∃ code,
      generateAll rs em = (.ok (), ⟨.push "name" :: code, 9, 4, [.any, .int, .string]⟩) ∧
        Instruction.executeAll config .standard account code [.name "name"] bound =
          (.ok [.value account.value, .value (some (.int 2)), .name "name"], bound) ∧
        Program.run ⟨"", code, .any, config⟩ .standard account bound =
          (.error (.stackImbalance 2), bound)) ∧
      (generateAll (rs ++ [ofIdentifier x]) em).1 = .error (.notCompilable "#x") := by
  intro x account bound occasion rs config em
  have evaluated : ∀ r ∈ rs, r.IsEvaluated :=
    List.forall_mem_cons.2 ⟨⟨_, _, rfl⟩, List.forall_mem_singleton.2 ⟨_, _, rfl⟩⟩
  have signed : ∀ r ∈ rs, r.isCompilable = true :=
    List.forall_mem_cons.2 ⟨rfl, List.forall_mem_singleton.2 rfl⟩
  have obtained : Obtained config.unbound .standard account rs bound
      [some (.int 2), account.value] bound := by
    refine .cons rfl ?_ (.cons rfl ?_ (.nil bound))
    · rintro type ⟨⟩ w ⟨⟩
      rfl
    · rintro type ⟨⟩ w ⟨⟩
      rfl
  obtain ⟨⟨code, types, hgenerate, htypes, -, hrun⟩, hunset⟩ :=
    fragments_compose rs evaluated signed em
  obtain ⟨-, hexecute, hprogram⟩ := hrun config rfl rfl (by decide) _ _ _ _ _ obtained
  have hsome : types.map some = [Descriptor.int, .any].map some := htypes
  obtain rfl : types = [.int, .any] := (List.map_inj_right fun _ _ => Option.some.inj).1 hsome
  refine ⟨⟨code, hgenerate, hexecute _, (hprogram "" .any).2 (by decide)⟩, ?_⟩
  rw [(hunset (ofIdentifier x) rfl).2 []]
  rfl

end Reference
end Sigil
