import Sigil.Command.Run
import Sigil.Proofs.Config.Settings
import Sigil.Proofs.Reference.Grammar
import Sigil.Proofs.Reference.Tiers

/-! The two commands for one reference agree. Both read their task alike, and in settings whose slots differ;
what the first prints the second prints twice, once of each tier. Only for `#this` in a scope is there a
value and no program. -/

namespace Sigil

namespace Command

theorem distinct_of_loadConfig {files : Files} {path : Option String} {config : Config}
    (h : loadConfig files path = .ok config) : config.contextSlot ≠ config.namespaceSlot := by
  cases path with
  | none =>
    rw [← Except.ok.inj h]
    decide
  | some path =>
    simp only [loadConfig] at h
    split at h
    · contradiction
    · exact Config.distinct_of_parse (eq_ok_of_mapError h)

theorem state_of_load {files : Files} {options : Options} {setup : Setup}
    (h : load files options = .ok setup) :
    setup.state.config.contextSlot ≠ setup.state.config.namespaceSlot ∧ setup.state.scopes = [] := by
  unfold load at h
  split at h
  · contradiction
  · next config hconfig =>
    split at h
    · contradiction
    · dsimp only at h
      split at h
      · contradiction
      · rw [← Except.ok.inj h]
        exact ⟨distinct_of_loadConfig hconfig, rfl⟩

theorem state_of_enter {setup entered : Setup} {scope : Option String}
    (h : setup.enter scope = .ok entered) (outside : setup.state.scopes = []) :
    entered.state.config = setup.state.config ∧ entered.state.isNested = scope.isSome := by
  cases scope with
  | none =>
    rw [← Except.ok.inj h]
    exact ⟨rfl, by rw [State.isNested, outside]; rfl⟩
  | some text =>
    simp only [Setup.enter] at h
    split at h
    · contradiction
    · rw [← Except.ok.inj h]
      exact ⟨rfl, rfl⟩

variable {files : Files} {quiet : Bool} {task : Task} {r : Reference} {setup : Setup}

/-- A task is read, whatever file its diagnostics would name: its reference, in settings whose slots differ,
and in a scope if the task has one. -/
structure Prepared (files : Files) (quiet : Bool) (task : Task) (r : Reference) (setup : Setup) : Prop where
  reads : ∀ file, prepare files quiet file task = .ok (r, setup)
  parsed : Reference.parse (Text.trim task.source) = .ok r
  distinct : setup.state.config.contextSlot ≠ setup.state.config.namespaceSlot
  nested : setup.state.isNested = task.scope.isSome

theorem prepared_or_refused (files : Files) (quiet : Bool) (task : Task) :
    (∃ r setup, Prepared files quiet task r setup) ∨
      ∀ file, ∃ message output, prepare files quiet file task = .error (.fail message output) := by
  cases hparsed : Reference.parse (Text.trim task.source) with
  | error d => exact .inr fun file => ⟨_, _, by simp only [prepare, hparsed]; rfl⟩
  | ok r =>
    cases hloaded : load files task.options with
    | error message => exact .inr fun file => ⟨_, _, by simp only [prepare, hparsed, hloaded]; rfl⟩
    | ok loaded =>
      cases hentered : loaded.enter task.scope with
      | error message =>
        exact .inr fun file => ⟨_, _, by simp only [prepare, hparsed, hloaded, hentered]; rfl⟩
      | ok setup =>
        have hreads (file : String) : prepare files quiet file task = .ok (r, setup) := by
          simp only [prepare, hparsed, hloaded, hentered]
        obtain ⟨distinct, outside⟩ := state_of_load hloaded
        obtain ⟨hconfig, hnested⟩ := state_of_enter hentered outside
        exact .inl ⟨r, setup, hreads, hparsed, hconfig ▸ distinct, hnested⟩

theorem fail_or_value (files : Files) (quiet verbose : Bool) (task : Task) :
    ((evaluate files quiet verbose task).failure ≠ none ∧ (compile files quiet task).failure ≠ none) ∨
      ∃ r setup t, Prepared files quiet task r setup ∧
        (r.evaluate .standard setup.state setup.store).outcome = .ok t := by
  rcases prepared_or_refused files quiet task with ⟨r, setup, prepared⟩ | hrefused
  · cases ht : (r.evaluate .standard setup.state setup.store).outcome with
    | ok t => exact .inr ⟨r, setup, t, prepared, ht⟩
    | error e =>
      left
      simp [evaluate, compile, prepared.reads, ht, Outcome.fail]
  · left
    obtain ⟨message, output, hevaluate⟩ := hrefused "<eval>"
    obtain ⟨message', output', hcompile⟩ := hrefused "<compile>"
    simp [evaluate, compile, hevaluate, hcompile, Outcome.fail]

namespace Prepared

theorem loadsRoot_iff (h : Prepared files quiet task r setup) :
    r.LoadsRoot setup.state ↔ ¬(r.name = .this ∧ task.scope.isSome = true) := by
  rw [Reference.LoadsRoot, h.nested]

theorem evaluate_eq (h : Prepared files quiet task r setup) (verbose : Bool) {t : TypedValue}
    (ht : (r.evaluate .standard setup.state setup.store).outcome = .ok t) :
    evaluate files quiet verbose task =
      .ok (success t.text ::
        if verbose then [exitInfo (r.evaluate .standard setup.state setup.store).reference] else []) := by
  simp only [evaluate, h.reads, ht]

theorem compile_eq (h : Prepared files quiet task r setup) (atRoot : r.LoadsRoot setup.state)
    {t : TypedValue} (ht : (r.evaluate .standard setup.state setup.store).outcome = .ok t) :
    ∃ p : Program, p.exit = exitDescriptor t.value ∧
      Program.compile (r.evaluate .standard setup.state setup.store).reference.codeSource
        setup.state.config = .ok p ∧
      compile files quiet task = .ok (listing p ++
        [info ("interpreted: " ++ t.text), success ("compiled:    " ++ t.text)]) := by
  have alike : Namespace.standard.Alike setup.store
      (r.evaluate .standard setup.state setup.store).store := by
    rw [r.evaluate_standard_store]
    exact fun _ => rfl
  obtain ⟨p, hcompile, hexit, hrun⟩ := Reference.compile_of_evaluate atRoot ht alike h.distinct
  refine ⟨p, hexit, hcompile, ?_⟩
  simp only [compile, h.reads, ht, hcompile, hrun]
  rfl

theorem compile_this (h : Prepared files quiet task r setup) (hthis : r.name = .this)
    (hscope : task.scope.isSome = true) :
    compile files quiet task = .fail "compilation failed"
      (report quiet (Text.trim task.source) "<compile>"
        ((EvalError.notCompilable "#this").diagnostic r.span)) := by
  have hevaluate : r.evaluate .standard setup.state setup.store =
      ⟨.ok setup.state.active, setup.store, r⟩ :=
    Reference.evaluate_nested hthis (h.nested.trans hscope) _ _
  have hcompile : Program.compile r.codeSource setup.state.config = .error (.notCompilable "#this") := by
    rw [Reference.compile_codeSource r h.distinct, Reference.exit_of_parse h.parsed,
      Reference.display, hthis]
    rfl
  simp only [compile, h.reads, hevaluate, hcompile]
  rfl

end Prepared

theorem status_exit (quiet : Bool) (o : Outcome) : (o.exit quiet).status = 0 ↔ o.failure = none := by
  unfold Outcome.exit
  cases o.failure with
  | none => simp
  | some message => simp

/-- Compiling a task succeeds exactly where evaluating it does, but for `#this` in a scope, and both tiers
then print the same value. -/
theorem compile_agrees_with_evaluate (files : Files) (input : String) (quiet verbose : Bool) (task : Task) :
    let evaluated := Request.run ⟨.evaluate task, verbose, quiet⟩ files input
    let compiled := Request.run ⟨.compile task, verbose, quiet⟩ files input
    (compiled.status = 0 ↔ evaluated.status = 0 ∧
        ¬∃ r, Reference.parse (Text.trim task.source) = .ok r ∧ r.name = .this ∧ task.scope.isSome = true) ∧
      (compiled.status = 0 → ∃ (r : Reference) (setup : Setup) (t : TypedValue) (p : Program),
        prepare files quiet "<eval>" task = .ok (r, setup) ∧
        (r.evaluate .standard setup.state setup.store).outcome = .ok t ∧
        Program.compile (r.evaluate .standard setup.state setup.store).reference.codeSource
          setup.state.config = .ok p ∧
        evaluated.output = .out ("\x1b[32m" ++ t.text ++ "\x1b[0m\n") ::
          (if verbose then [.out ("\x1b[34minfo:\x1b[0m exit type: " ++ p.exit.text ++ "\n")] else []) ∧
        compiled.output = listing p ++
          [.out ("\x1b[34minfo:\x1b[0m interpreted: " ++ t.text ++ "\n"),
            .out ("\x1b[32mcompiled:    " ++ t.text ++ "\x1b[0m\n")]) ∧
      ∀ r, Reference.parse (Text.trim task.source) = .ok r → r.name = .this → task.scope.isSome = true →
        evaluated.status = 0 → compiled.status = 1 ∧
          compiled.output = if quiet then [] else
            [.err (((EvalError.notCompilable "#this").diagnostic r.span).renderColoured
              (Text.trim task.source) "<compile>"),
              .err "\x1b[31merror:\x1b[0m compilation failed\n"] := by
  intro evaluated compiled
  have hevaluated : evaluated.status = 0 ↔ (evaluate files quiet verbose task).failure = none :=
    status_exit quiet _
  have hcompiled : compiled.status = 0 ↔ (compile files quiet task).failure = none := status_exit quiet _
  rcases fail_or_value files quiet verbose task with ⟨hevaluate, hcompile⟩ | ⟨r, setup, t, prepared, ht⟩
  · rw [hevaluated, hcompiled]
    exact ⟨iff_of_false hcompile fun hboth => hevaluate hboth.1, fun hok => absurd hok hcompile,
      fun _ _ _ _ hok => absurd hok hevaluate⟩
  have hevaluate := prepared.evaluate_eq verbose ht
  have hvalue : evaluated.status = 0 := hevaluated.2 (by rw [hevaluate]; rfl)
  have hparsed {s : Reference} (hs : Reference.parse (Text.trim task.source) = .ok s) : s = r :=
    Except.ok.inj (hs.symm.trans prepared.parsed)
  by_cases nested : r.name = .this ∧ task.scope.isSome = true
  · obtain ⟨hthis, hscope⟩ := nested
    have hcompile := prepared.compile_this hthis hscope
    have hfailed : compiled.status ≠ 0 := by
      rw [ne_eq, hcompiled, hcompile]
      simp [Outcome.fail]
    refine ⟨iff_of_false hfailed fun hboth => hboth.2 ⟨r, prepared.parsed, hthis, hscope⟩,
      fun hok => absurd hok hfailed, fun s hs _ _ _ => ?_⟩
    have hexit : compiled = (Outcome.fail _ _).exit quiet := congrArg (Outcome.exit quiet) hcompile
    rw [hparsed hs, hexit]
    cases quiet <;> exact ⟨rfl, rfl⟩
  · have atRoot : r.LoadsRoot setup.state := prepared.loadsRoot_iff.2 nested
    obtain ⟨p, hexit, hprogram, hcompile⟩ := prepared.compile_eq atRoot ht
    have hok : compiled.status = 0 := hcompiled.2 (by rw [hcompile]; rfl)
    have hnot {s : Reference} (hs : Reference.parse (Text.trim task.source) = .ok s)
        (hthis : s.name = .this) (hscope : task.scope.isSome = true) : False :=
      nested ⟨hparsed hs ▸ hthis, hscope⟩
    refine ⟨iff_of_true hok ⟨hvalue, fun ⟨s, hs, hthis, hscope⟩ => hnot hs hthis hscope⟩, fun _ => ?_,
      fun s hs hthis hscope _ => (hnot hs hthis hscope).elim⟩
    refine ⟨r, setup, t, p, prepared.reads "<eval>", ht, hprogram, ?_, ?_⟩
    · change ((evaluate files quiet verbose task).exit quiet).output = _
      rw [hevaluate, exitInfo, Reference.exit_of_evaluate atRoot ht, hexit]
      simp only [Outcome.ok, Outcome.exit, success_eq, info_append, String.reduceAppend]
    · change ((compile files quiet task).exit quiet).output = _
      rw [hcompile]
      simp only [Outcome.ok, Outcome.exit, info_append, success_append, String.reduceAppend]

theorem compile_agrees_with_evaluate_restricted :
    let files : Files := fun path =>
      if path = "vars" then .ok "\x7b\"x\": \x7b\"$type\": \"Account\", \"$public\": false\x7d\x7d"
      else if path = "config" then
        .ok "\x7b\"unbound\": \"strict\", \"context-slot\": 9, \"namespace-slot\": 3\x7d"
      else .error .notFound
    let options : Options := ⟨some "vars", some "7", some "config", true⟩
    let compiled := Request.run ⟨.compile ⟨" # x", options, some "7"⟩, true, false⟩ files ""
    (compiled.status = 0 ∧ ∃ p, compiled.output = listing p ++
      [.out "\x1b[34minfo:\x1b[0m interpreted: <Account>\n",
        .out "\x1b[32mcompiled:    <Account>\x1b[0m\n"]) ∧
      let refused := Request.run ⟨.compile ⟨"#this", options, some "7"⟩, true, false⟩ files ""
      refused.status = 1 ∧ refused.output =
        [.err (((EvalError.notCompilable "#this").diagnostic ⟨0, 5⟩).renderColoured "#this" "<compile>"),
          .err "\x1b[31merror:\x1b[0m compilation failed\n"] := by
  intro files options compiled
  have hname : (Request.run ⟨.evaluate ⟨" # x", options, some "7"⟩, true, false⟩ files "").status = 0 := by
    decide +kernel
  have houtput : (Request.run ⟨.evaluate ⟨" # x", options, some "7"⟩, true, false⟩ files "").output =
      [.out ("\x1b[32m" ++ "<Account>" ++ "\x1b[0m\n"),
        .out "\x1b[34minfo:\x1b[0m exit type: any\n"] := by decide +kernel
  have hthis : (Request.run ⟨.evaluate ⟨"#this", options, some "7"⟩, true, false⟩ files "").status = 0 := by
    decide +kernel
  have hx : Token.tokenize (Text.trim " # x") =
      [⟨.hash, ⟨0, 1⟩⟩, ⟨.ident "x", ⟨2, 3⟩⟩, ⟨.eof, ⟨3, 3⟩⟩] := by decide +kernel
  have hreserved : Token.tokenize (Text.trim "#this") =
      [⟨.hash, ⟨0, 1⟩⟩, ⟨.ident "this", ⟨1, 5⟩⟩, ⟨.eof, ⟨5, 5⟩⟩] := by decide +kernel
  obtain ⟨hstatus, hprinted, -⟩ :=
    compile_agrees_with_evaluate files "" false true ⟨" # x", options, some "7"⟩
  have hcompiled : compiled.status = 0 := by
    refine hstatus.2 ⟨hname, ?_⟩
    rintro ⟨r, hr, hthis, -⟩
    rw [Reference.parse, hx] at hr
    rw [← Except.ok.inj hr] at hthis
    contradiction
  refine ⟨⟨hcompiled, ?_⟩, ?_⟩
  · obtain ⟨r, setup, t, p, -, -, -, hevaluated, hlisted⟩ := hprinted hcompiled
    rw [houtput] at hevaluated
    have hline := Output.out.inj (List.cons.inj hevaluated).1
    have htext : "<Account>" = t.text :=
      (String.append_right_inj _).1 ((String.append_left_inj _).1 hline)
    rw [← htext] at hlisted
    exact ⟨p, hlisted⟩
  · have hparsed : Reference.parse (Text.trim "#this") = .ok ⟨⟨.this, ⟨0, 5⟩⟩, none⟩ := by
      rw [Reference.parse, hreserved]
      rfl
    have htrim : Text.trim "#this" = "#this" := by decide +kernel
    have hrefused := (compile_agrees_with_evaluate files "" false true
      ⟨"#this", options, some "7"⟩).2.2 _ hparsed rfl rfl hthis
    rwa [htrim] at hrefused

end Command
end Sigil
