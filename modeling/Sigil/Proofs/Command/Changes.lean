import Sigil.Command.Repl

/-! What lines change in an interactive session. A line enters a scope, leaves the innermost one or binds a
name exactly if it is written to do so and nothing in it is refused; every other line leaves the scopes and
the bindings as they were, and no line changes the root object. -/

namespace Sigil.Command

theorem afterStart_eq_some {start text rest : String} :
    afterStart start text = some rest ↔ text = start ++ rest := by
  simp only [afterStart, List.isPrefixOf_iff_prefix]
  constructor
  · intro h
    split at h
    · next hprefix =>
      obtain ⟨cs, hcs⟩ := hprefix
      have hdrop : text.toList.drop start.toList.length = cs := by rw [← hcs, List.drop_left]
      rw [← Option.some.inj h, hdrop]
      exact String.toList_injective (by rw [← hcs, String.toList_append, String.toList_ofList])
    · contradiction
  · rintro rfl
    simp

namespace Line

def Spelled (text : String) : Line → Prop
  | .quit => text = ":quit" ∨ text = ":q"
  | .pop => text = ":pop"
  | .scope json => text = ":scope " ++ json
  | .assign target json =>
    ∃ before after, text = String.ofList (before ++ '=' :: after) ∧ before.head? ≠ some ':' ∧
      '=' ∉ before ∧ target = Text.trim (String.ofList before) ∧ json = Text.trim (String.ofList after)
  | _ => True

theorem spelled_ofTrimmed (text : String) : Spelled text (ofTrimmed text) := by
  unfold ofTrimmed
  split
  · trivial
  split
  · next h => exact h
  split
  · trivial
  split
  · trivial
  split
  · next h => exact h
  split
  · next h => exact afterStart_eq_some.1 h
  split
  · trivial
  split
  · trivial
  · next hcolon =>
    unfold ofExpression
    split
    · next before after hsplit =>
      obtain ⟨htext, hbefore⟩ := Text.splitAtEquals_eq_some.1 hsplit
      have hhead : before.head? ≠ some ':' := by
        intro hhead
        obtain ⟨rest, rfl⟩ := List.head?_eq_some_iff.1 hhead
        exact hcolon (rest ++ '=' :: after) htext
      refine ⟨before, after, ?_, hhead, hbefore, rfl, rfl⟩
      rw [← htext, String.ofList_toList]
    · trivial

theorem ofTrimmed_scope (json : String) : ofTrimmed (":scope " ++ json) = .scope json := by
  have hne {s : String} (h : ¬":scope ".toList <+: s.toList) : ":scope " ++ json ≠ s := by
    rintro rfl
    exact h ⟨json.toList, String.toList_append.symm⟩
  have hcommand : afterStart ":scope " (":scope " ++ json) = some json := afterStart_eq_some.2 rfl
  rw [ofTrimmed, if_neg (hne (by decide)), if_neg (not_or.2 ⟨hne (by decide), hne (by decide)⟩),
    if_neg (not_or.2 ⟨hne (by decide), hne (by decide)⟩), if_neg (hne (by decide)),
    if_neg (hne (by decide)), hcommand]

theorem ofTrimmed_of_expression {text : String} (hne : text ≠ "") (h : text.toList.head? ≠ some ':') :
    ofTrimmed text = ofExpression text := by
  have hcommand {start : String} (hstart : start.toList.head? = some ':') : text ≠ start := by
    rintro rfl
    exact h hstart
  have hnone {start : String} (hstart : start.toList.head? = some ':') :
      afterStart start text = none := by
    refine Option.eq_none_iff_forall_ne_some.2 fun rest hrest => h ?_
    rw [afterStart_eq_some.1 hrest, String.toList_append, List.head?_append, hstart]
    rfl
  rw [ofTrimmed, if_neg hne, if_neg (not_or.2 ⟨hcommand rfl, hcommand rfl⟩),
    if_neg (not_or.2 ⟨hcommand rfl, hcommand rfl⟩), if_neg (hcommand rfl), if_neg (hcommand rfl),
    hnone rfl]
  simp only [hnone (rfl : ":compile ".toList.head? = some ':')]
  split
  · next rest htext => exact absurd (by rw [htext, List.head?_cons]) h
  · rfl

theorem ofTrimmed_assign {before after : List Char} (hcolon : before.head? ≠ some ':')
    (hbefore : '=' ∉ before) :
    ofTrimmed (String.ofList (before ++ '=' :: after)) =
      .assign (Text.trim (String.ofList before)) (Text.trim (String.ofList after)) := by
  have hsplit : Text.splitAtEquals (before ++ '=' :: after) = some (before, after) :=
    Text.splitAtEquals_eq_some.2 ⟨rfl, hbefore⟩
  have hne : String.ofList (before ++ '=' :: after) ≠ "" := by simp
  have hhead : (String.ofList (before ++ '=' :: after)).toList.head? ≠ some ':' := by
    rw [String.toList_ofList]
    cases before with
    | nil => simp
    | cons c before => exact hcolon
  rw [ofTrimmed_of_expression hne hhead, ofExpression, String.toList_ofList, hsplit]

end Line

inductive Change where
  | enter (object : TypedValue)
  | leave
  | bind (name : String) (t : TypedValue)

namespace Repl

def content (w : Repl) : Store × State := (w.store, w.state)

def changed (w : Repl) : Change → Store × State
  | .enter object => (w.store, w.state.push object)
  | .leave => (w.store, w.state.pop)
  | .bind name t => (w.store.bind name t, w.state)

/-- A trimmed line calls for a change of a session: it is a command that can be carried out, or an
assignment of readable JSON to a variable of bindings that are not fixed. The first `=` of an assignment
parts it, and both parts are trimmed as the line is. -/
inductive CallsFor (w : Repl) : String → Change → Prop
  | scope {json : String} {object : TypedValue} (accepted : Binding.parse w.serial json = .ok object) :
      CallsFor w (":scope " ++ json) (.enter object)
  | pop (inside : w.state.scopes ≠ []) : CallsFor w ":pop" .leave
  | assign {before after : List Char} {r : Reference} {name : String} {free : IsFreeName name}
      {t : TypedValue} (expression : before.head? ≠ some ':') (first : '=' ∉ before)
      (parsed : Reference.parse (Text.trim (String.ofList before)) = .ok r)
      (named : r.name = .named name free)
      (accepted : Binding.parse w.serial (Text.trim (String.ofList after)) = .ok t)
      (writable : w.store.readOnly = false) :
      CallsFor w (String.ofList (before ++ '=' :: after)) (.bind name t)

variable {quiet : Bool} {w : Repl} {text : String} {change : Change}

theorem CallsFor.bind_of_head (h : CallsFor w text change) (hcolon : text.toList.head? ≠ some ':') :
    ∃ name t, change = .bind name t := by
  cases h with
  | scope accepted => exact absurd (by rw [String.toList_append]; rfl) hcolon
  | pop inside => exact absurd rfl hcolon
  | assign expression first parsed named accepted writable => exact ⟨_, _, rfl⟩

theorem content_evaluate (target : String) (w : Repl) : (evaluate quiet target w).2.content = w.content := by
  unfold evaluate
  split
  · rfl
  · next r hr =>
    have hstore := r.evaluate_standard_store w.state w.store
    dsimp only
    split <;> simp only [content, hstore]

theorem content_compile (source : String) (w : Repl) : (compile quiet source w).2.content = w.content := by
  unfold compile
  split
  · rfl
  · next r hr =>
    have hstore := r.evaluate_standard_store w.state w.store
    dsimp only
    split
    · simp only [content, hstore]
    · split
      · simp only [content, hstore]
      · next p hp =>
        have hrun := p.run_standard_store w.state.root w.store
        rw [hstore]
        split <;> simp only [content, hrun]

theorem content_assign {target json : String} {r : Reference} {t : TypedValue}
    (parsed : Reference.parse target = .ok r) (accepted : Binding.parse w.serial json = .ok t) :
    (assign quiet target json w).2.content =
      match r.name with
      | .named name _ => if w.store.readOnly then w.content else (w.store.bind name t, w.state)
      | _ => w.content := by
  have hcontent : (assign quiet target json w).2.content =
      ((r.assign .standard .whole (fun s => (.ok t, s)) w.store).2, w.state) := by
    simp only [assign, parsed, accepted]
    split <;> rfl
  rw [hcontent]
  cases hname : r.name with
  | named name free =>
    rw [Reference.assign_standard hname]
    cases w.store.readOnly <;> rfl
  | _ =>
    rw [Reference.assign_reserved (by rw [Reference.isWritable, hname]; rfl)]
    rfl

theorem content_assign_cases (quiet : Bool) (target json : String) (w : Repl) :
    (assign quiet target json w).2.content = w.content ∨
      ∃ r name free t, Reference.parse target = .ok r ∧ r.name = .named name free ∧
        Binding.parse w.serial json = .ok t ∧ w.store.readOnly = false := by
  cases parsed : Reference.parse target with
  | error d =>
    left
    simp only [assign, parsed]
  | ok r =>
    cases accepted : Binding.parse w.serial json with
    | error message =>
      left
      simp only [assign, parsed, accepted]
    | ok t =>
      rw [content_assign parsed accepted]
      cases hname : r.name with
      | named name free =>
        cases hfixed : w.store.readOnly with
        | true => exact .inl rfl
        | false => exact .inr ⟨r, name, free, t, rfl, hname, rfl, rfl⟩
      | _ => exact .inl rfl

theorem content_step_of_callsFor (h : CallsFor w text change) :
    (step quiet w (Line.ofTrimmed text)).2.content = w.changed change := by
  cases h with
  | scope accepted =>
    rw [Line.ofTrimmed_scope]
    simp only [step, enter, accepted]
    rfl
  | pop inside =>
    obtain ⟨scope, scopes, hscopes⟩ := List.exists_cons_of_ne_nil inside
    have hline : Line.ofTrimmed ":pop" = .pop := rfl
    rw [hline]
    simp only [step, leave, State.innermost, hscopes]
    rfl
  | assign expression first parsed named accepted writable =>
    rw [Line.ofTrimmed_assign expression first]
    simp only [step, content_assign parsed accepted, named, writable]
    rfl

theorem content_step_of_not_callsFor (h : ∀ change, ¬CallsFor w text change) :
    (step quiet w (Line.ofTrimmed text)).2.content = w.content := by
  have hspelled := Line.spelled_ofTrimmed text
  -- Three kinds of line may change something, and each that is carried out is one that calls for it.
  cases hline : Line.ofTrimmed text with
  | blank => rfl
  | quit => rfl
  | help => rfl
  | vars => rfl
  | unknown text => rfl
  | compile source => exact content_compile source w
  | evaluate target => exact content_evaluate target w
  | pop =>
    rw [hline] at hspelled
    subst hspelled
    have houtside : w.state.scopes = [] := by
      cases hscopes : w.state.scopes with
      | nil => rfl
      | cons scope scopes =>
        have inside : w.state.scopes ≠ [] := hscopes ▸ List.cons_ne_nil scope scopes
        exact absurd (.pop inside) (h .leave)
    simp only [step, leave, State.innermost, houtside]
  | scope json =>
    rw [hline] at hspelled
    subst hspelled
    cases accepted : Binding.parse w.serial json with
    | error message => simp only [step, enter, accepted]
    | ok object => exact absurd (.scope accepted) (h (.enter object))
  | assign target json =>
    rw [hline] at hspelled
    obtain ⟨before, after, rfl, expression, first, rfl, rfl⟩ := hspelled
    rcases content_assign_cases quiet (Text.trim (String.ofList before))
      (Text.trim (String.ofList after)) w with hkept | ⟨r, name, free, t, parsed, named, accepted, writable⟩
    · exact hkept
    · exact absurd (.assign expression first parsed named accepted writable) (h (.bind name t))

theorem content_step_cases (quiet : Bool) (w : Repl) (text : String) :
    (step quiet w (Line.ofTrimmed text)).2.content = w.content ∨
      ∃ change, CallsFor w text change ∧
        (step quiet w (Line.ofTrimmed text)).2.content = w.changed change := by
  by_cases h : ∃ change, CallsFor w text change
  · obtain ⟨change, hcalls⟩ := h
    exact .inr ⟨change, hcalls, content_step_of_callsFor hcalls⟩
  · exact .inl (content_step_of_not_callsFor fun change hcalls => h ⟨change, hcalls⟩)

theorem change_of_gain {scope : Scope} (h : (w.changed change).2.scopes = scope :: w.state.scopes) :
    ∃ object, scope = .nested object ∧ change = .enter object := by
  cases change with
  | enter object => exact ⟨object, (List.cons.inj h).1.symm, rfl⟩
  | leave =>
    have hlength := congrArg List.length h
    simp only [changed, State.pop, List.length_tail, List.length_cons] at hlength
    omega
  | bind name t => exact absurd h.symm (List.cons_ne_self _ _)

theorem change_of_loss {scope : Scope} (h : w.state.scopes = scope :: (w.changed change).2.scopes) :
    change = .leave := by
  cases change with
  | enter object =>
    have hlength := congrArg List.length h
    simp only [changed, State.push, List.length_cons] at hlength
    omega
  | leave => rfl
  | bind name t => exact absurd h.symm (List.cons_ne_self _ _)

theorem scopes_step_gain_iff (quiet : Bool) (w : Repl) (text : String) (scope : Scope) :
    (step quiet w (Line.ofTrimmed text)).2.state.scopes = scope :: w.state.scopes ↔
      ∃ object, scope = .nested object ∧ CallsFor w text (.enter object) := by
  change (step quiet w (Line.ofTrimmed text)).2.content.2.scopes = _ ↔ _
  constructor
  · intro hgain
    rcases content_step_cases quiet w text with hcontent | ⟨change, hcalls, hcontent⟩
    · rw [hcontent] at hgain
      exact absurd hgain.symm (List.cons_ne_self _ _)
    · rw [hcontent] at hgain
      obtain ⟨object, hscope, rfl⟩ := change_of_gain hgain
      exact ⟨object, hscope, hcalls⟩
  · rintro ⟨object, rfl, hcalls⟩
    rw [content_step_of_callsFor hcalls]
    rfl

theorem scopes_step_loss_iff (quiet : Bool) (w : Repl) (text : String) :
    (∃ scope, w.state.scopes = scope :: (step quiet w (Line.ofTrimmed text)).2.state.scopes) ↔
      CallsFor w text .leave := by
  change (∃ scope, _ = scope :: (step quiet w (Line.ofTrimmed text)).2.content.2.scopes) ↔ _
  constructor
  · rintro ⟨scope, hloss⟩
    rcases content_step_cases quiet w text with hcontent | ⟨change, hcalls, hcontent⟩
    · rw [hcontent] at hloss
      exact absurd hloss.symm (List.cons_ne_self _ _)
    · rw [hcontent] at hloss
      rwa [← change_of_loss hloss]
  · intro hcalls
    rw [content_step_of_callsFor hcalls]
    cases hcalls with
    | pop inside =>
      obtain ⟨scope, scopes, hscopes⟩ := List.exists_cons_of_ne_nil inside
      exact ⟨scope, by rw [changed, State.pop, hscopes, List.tail_cons]⟩

theorem scopes_step_of_not_callsFor (quiet : Bool) {w : Repl} {text : String}
    (enter : ∀ object, ¬CallsFor w text (.enter object)) (leave : ¬CallsFor w text .leave) :
    (step quiet w (Line.ofTrimmed text)).2.state.scopes = w.state.scopes := by
  change (step quiet w (Line.ofTrimmed text)).2.content.2.scopes = _
  rcases content_step_cases quiet w text with hcontent | ⟨change, hcalls, hcontent⟩
  · rw [hcontent]
    rfl
  · rw [hcontent]
    cases change with
    | enter object => exact absurd hcalls (enter object)
    | leave => exact absurd hcalls leave
    | bind name t => rfl

theorem store_step_of_not_callsFor (quiet : Bool) {w : Repl} {text : String}
    (bind : ∀ name t, ¬CallsFor w text (.bind name t)) :
    (step quiet w (Line.ofTrimmed text)).2.store = w.store := by
  change (step quiet w (Line.ofTrimmed text)).2.content.1 = _
  rcases content_step_cases quiet w text with hcontent | ⟨change, hcalls, hcontent⟩
  · rw [hcontent]
    rfl
  · rw [hcontent]
    cases change with
    | enter object => rfl
    | leave => rfl
    | bind name t => exact absurd hcalls (bind name t)

def fixed (content : Store × State) : TypedValue × Config × Bool :=
  (content.2.root, content.2.config, content.1.readOnly)

theorem fixed_changed (w : Repl) (change : Change) : fixed (w.changed change) = fixed w.content := by
  cases change <;> rfl

theorem fixed_step (quiet : Bool) (w : Repl) (text : String) :
    fixed (step quiet w (Line.ofTrimmed text)).2.content = fixed w.content := by
  rcases content_step_cases quiet w text with hcontent | ⟨change, -, hcontent⟩
  · rw [hcontent]
  · rw [hcontent, fixed_changed]

/-! Lines one after another. -/

theorem run_cons (quiet : Bool) {text : String} (h : Line.ofText text ≠ .quit) (lines : List String)
    (w : Repl) :
    (run quiet (text :: lines) w).2 = (run quiet lines (step quiet w (Line.ofText text)).2).2 := by
  rw [run]
  split
  · next hquit => exact absurd hquit h
  · rfl

theorem run_singleton (quiet : Bool) (text : String) (w : Repl) :
    (run quiet [text] w).2 = (step quiet w (Line.ofText text)).2 := by
  by_cases h : Line.ofText text = .quit
  · simp only [run, h, step]
  · rw [run_cons quiet h, run]

theorem run_append (quiet : Bool) {lines : List String} (h : ∀ l ∈ lines, Line.ofText l ≠ .quit)
    (more : List String) (w : Repl) :
    (run quiet (lines ++ more) w).2 = (run quiet more (run quiet lines w).2).2 := by
  induction lines generalizing w with
  | nil => rfl
  | cons text lines ih =>
    obtain ⟨htext, hlines⟩ := List.forall_mem_cons.1 h
    rw [List.cons_append, run_cons quiet htext, run_cons quiet htext, ih hlines]

theorem fixed_run (quiet : Bool) (lines : List String) (w : Repl) :
    fixed (run quiet lines w).2.content = fixed w.content := by
  induction lines generalizing w with
  | nil => rfl
  | cons text lines ih =>
    by_cases h : Line.ofText text = .quit
    · simp only [run, h]
    · rw [run_cons quiet h, ih]
      exact fixed_step quiet w (Text.trim text)

/-- What a line changes in a session: `:scope`, `:pop` and assignments make one change each when they are
accepted, and no other line changes anything. -/
theorem run_changes (quiet : Bool) (w : Repl) (lines : List String)
    (running : ∀ l ∈ lines, Text.trim l ≠ ":quit" ∧ Text.trim l ≠ ":q") (text : String) :
    let before := (run quiet lines w).2
    let after := (run quiet (lines ++ [text]) w).2
    (after.state.root = w.state.root ∧ after.state.config = w.state.config ∧
        after.store.readOnly = w.store.readOnly) ∧
      (∀ scope, after.state.scopes = scope :: before.state.scopes ↔
        ∃ object, scope = .nested object ∧ before.CallsFor (Text.trim text) (.enter object)) ∧
      ((∃ scope, before.state.scopes = scope :: after.state.scopes) ↔
        before.CallsFor (Text.trim text) .leave) ∧
      ((∀ object, ¬before.CallsFor (Text.trim text) (.enter object)) →
        ¬before.CallsFor (Text.trim text) .leave → after.state.scopes = before.state.scopes) ∧
      (∀ name t, before.CallsFor (Text.trim text) (.bind name t) →
        (∀ other, after.store.find? other = if name = other then some t else before.store.find? other) ∧
          after.store.readOnly = before.store.readOnly) ∧
      ((∀ name t, ¬before.CallsFor (Text.trim text) (.bind name t)) → after.store = before.store) := by
  intro before after
  have hquit : ∀ l ∈ lines, Line.ofText l ≠ .quit := by
    intro l hl hquit
    have hspelled := Line.spelled_ofTrimmed (Text.trim l)
    rw [← Line.ofText, hquit] at hspelled
    exact hspelled.elim (running l hl).1 (running l hl).2
  have hafter : after = (step quiet before (Line.ofTrimmed (Text.trim text))).2 := by
    rw [← Line.ofText, ← run_singleton, ← run_append quiet hquit]
  have hfixed : fixed after.content = fixed w.content := fixed_run quiet (lines ++ [text]) w
  simp only [fixed, content, Prod.mk.injEq] at hfixed
  refine ⟨hfixed, ?_, ?_, ?_, ?_, ?_⟩
  · rw [hafter]
    exact scopes_step_gain_iff quiet before (Text.trim text)
  · rw [hafter]
    exact scopes_step_loss_iff quiet before (Text.trim text)
  · rw [hafter]
    exact scopes_step_of_not_callsFor quiet
  · intro name t hcalls
    have hstore : after.store = before.store.bind name t := by
      rw [hafter]
      exact congrArg Prod.fst (content_step_of_callsFor hcalls)
    rw [hstore]
    exact ⟨fun other => before.store.find?_bind name other t, before.store.readOnly_bind name t⟩
  · rw [hafter]
    exact store_step_of_not_callsFor quiet

theorem run_changes_second_equals :
    -- The value that is assigned holds a second `=`.
    let w : Repl := ⟨.ofList [("y", .ofValue (.int 1))] false, ⟨.ofValue (.string "top"), [], {}⟩, 0⟩
    let lines := [":pop", ":scope 5", ":scope [5", ":pop =", ""]
    let after := (run true (lines ++ ["  #x = \"a=b\" "]) w).2
    after.state.root = .ofValue (.string "top") ∧ after.state.scopes = [.nested (.ofValue (.int 5))] ∧
      after.store.find? "x" = some ⟨some (.string "a=b"), some .string⟩ ∧
      after.store.find? "y" = some ⟨some (.int 1), some .int⟩ := by
  intro w lines after
  obtain ⟨⟨hroot, -⟩, -, -, hscopes, hbind, -⟩ :=
    run_changes true w lines (by decide +kernel) "  #x = \"a=b\" "
  have hbefore : (run true lines w).2 =
      ⟨w.store, ⟨.ofValue (.string "top"), [.nested (.ofValue (.int 5))], {}⟩, 1⟩ := rfl
  have htrim : Text.trim "  #x = \"a=b\" " =
      String.ofList ("#x ".toList ++ '=' :: " \"a=b\"".toList) := by decide +kernel
  have htokens : Token.tokenize (Text.trim (String.ofList "#x ".toList)) =
      [⟨.hash, ⟨0, 1⟩⟩, ⟨.ident "x", ⟨1, 2⟩⟩, ⟨.eof, ⟨2, 2⟩⟩] := by decide +kernel
  have hcalls : CallsFor (run true lines w).2 (Text.trim "  #x = \"a=b\" ")
      (.bind "x" (.ofValue (.string "a=b"))) := by
    rw [htrim, hbefore]
    exact .assign (by decide) (by decide) (by rw [Reference.parse, htokens]; rfl) rfl rfl rfl
  have honly (change : Change) (h : CallsFor (run true lines w).2 (Text.trim "  #x = \"a=b\" ") change) :
      ∃ name t, change = .bind name t := h.bind_of_head (by decide +kernel)
  obtain ⟨hfind, -⟩ := hbind _ _ hcalls
  refine ⟨hroot, ?_, hfind "x", ?_⟩
  · refine (hscopes (fun object henter => ?_) fun hleave => ?_).trans (by rw [hbefore])
    · obtain ⟨name, t, h⟩ := honly _ henter
      contradiction
    · obtain ⟨name, t, h⟩ := honly _ hleave
      contradiction
  · rw [hfind "y", hbefore]
    rfl

end Repl
end Sigil.Command
