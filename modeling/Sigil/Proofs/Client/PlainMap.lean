import Sigil.Proofs.Client.Signature

/-! The standard namespace as a plain map. Over every run of a client each name of each namespace holds what
was last written to it, or else its initial binding, and fixed bindings stay as they were. -/

namespace Sigil.Client

variable {ν ι : Type}

structure Write (ι : Type) where
  space : ι
  name : String
  value : TypedValue

namespace Write

variable [DecidableEq ι]

def to? (i : ι) (name : String) (x : Write ι) : Option TypedValue :=
  if x.space = i ∧ x.name = name then some x.value else none

def applyTo (stores : ι → Store) : Option (Write ι) → ι → Store
  | none => stores
  | some x => Function.update stores x.space ((stores x.space).bind x.name x.value)

theorem find?_applyTo (stores : ι → Store) (x : Option (Write ι)) (i : ι) (name : String) :
    (applyTo stores x i).find? name = (x.bind (to? i name)).or ((stores i).find? name) := by
  cases x with
  | none => rfl
  | some x =>
    by_cases hspace : x.space = i
    · subst hspace
      rw [applyTo, Function.update_self, Store.find?_bind]
      by_cases hname : x.name = name <;> simp [to?, hname]
    · rw [applyTo, Function.update_of_ne (Ne.symm hspace)]
      simp [to?, hspace]

theorem readOnly_applyTo (stores : ι → Store) (x : Option (Write ι)) (i : ι) :
    (applyTo stores x i).readOnly = (stores i).readOnly := by
  cases x with
  | none => rfl
  | some x =>
    by_cases hspace : x.space = i
    · subst hspace
      rw [applyTo, Function.update_self, Store.readOnly_bind]
    · rw [applyTo, Function.update_of_ne (Ne.symm hspace)]

theorem applyTo_of_ne (stores : ι → Store) {x : Option (Write ι)} {i : ι}
    (h : ∀ y, x = some y → y.space ≠ i) : applyTo stores x i = stores i := by
  cases x with
  | none => rfl
  | some x => exact Function.update_of_ne (Ne.symm (h x rfl)) _ stores

end Write

abbrev StandardWorld (ν ι : Type) := World ν fun _ : ι => Store

abbrev StandardEvent (ν ι : Type) := Event ν fun _ : ι => Store

/-- The write that an event makes: of an assignment what its right side yielded, under its own declared type,
and of a value set or written to a place the value under its own type. -/
def Event.write? (nodes : ν → Reference) : StandardEvent ν ι → Option (Write ι)
  | .performed (.set i name v) (.ok ()) => some ⟨i, name, ⟨v, v.map Value.descriptor⟩⟩
  | .performed (.write (.variable name _) i v) (.ok ()) =>
    some ⟨i, name, ⟨v, v.map Value.descriptor⟩⟩
  | .assigned target (some (.ok t)) (.ok _) =>
    (target.text? nodes).map fun name => ⟨target.space, name, t⟩
  | _ => none

variable [DecidableEq ι]

def lastWrite (nodes : ν → Reference) (i : ι) (name : String) (log : List (StandardEvent ν ι)) :
    Option TypedValue :=
  log.findSome? fun e => (e.write? nodes).bind (Write.to? i name)

/-- What a plain map holds under a name behind a log: the last write, or else the initial binding. -/
def bound (start : StandardWorld ν ι) (i : ι) (name : String) (log : List (StandardEvent ν ι)) :
    Option TypedValue :=
  (lastWrite start.nodes i name log).or ((start.stores i).find? name)

theorem bound_cons (start : StandardWorld ν ι) (i : ι) (name : String) (e : StandardEvent ν ι)
    (log : List (StandardEvent ν ι)) :
    bound start i name (e :: log) =
      ((e.write? start.nodes).bind (Write.to? i name)).or (bound start i name log) := by
  rw [bound, lastWrite, List.findSome?_cons, bound, ← Option.or_assoc]
  cases (e.write? start.nodes).bind (Write.to? i name) <;> rfl

def readAs (st : State) (name : String) : Option TypedValue → Except EvalError TypedValue
  | some t => .ok t
  | none =>
    match st.config.unbound with
    | .lenient => .ok ⟨none, none⟩
    | .strict => .error (.unboundVariable name)

def writeAnswer (start : StandardWorld ν ι) (i : ι) (name : String) : Except EvalError Unit :=
  if (start.stores i).readOnly then .error (.readOnlyNamespace name) else .ok ()

/-- What a plain map answers, given what came before. -/
def Event.Conforms (start : StandardWorld ν ι) (before : List (StandardEvent ν ι)) :
    StandardEvent ν ι → Prop
  | .performed (.lookup i name) r => r = .ok (bound start i name before)
  | .performed (.value i st name) r => r = readAs st name (bound start i name before)
  | .performed (.evaluate n i st) r =>
    ∀ name free, (start.nodes n).name = .named name free →
      r = readAs st name (bound start i name before)
  | .performed (.takePlace n i st) r =>
    ∀ name free, (start.nodes n).name = .named name free →
      r = (readAs st name (bound start i name before)).map (.variable name)
  | .performed (.view i) s =>
    (∀ name, s.find? name = bound start i name before) ∧
      s.names.Pairwise (· < ·) ∧
      (∀ name, name ∈ s.names ↔ (bound start i name before).isSome = true) ∧
      ((start.stores i).readOnly = true → s = start.stores i)
  | .performed (.set i name _) r => r = writeAnswer start i name
  | .performed (.write (.variable name _) i _) r => r = writeAnswer start i name
  | .assigned target yielded r =>
    match target.text? start.nodes with
    | some name =>
      if (start.stores target.space).readOnly then
        yielded = none ∧ r = .error (.readOnlyNamespace name)
      else yielded = some r
    | none => yielded = none ∧ r = .error (target.refusal start.nodes)
  | _ => True

theorem lookup_standard (st : State) (name : String) (s : Store) :
    st.lookup .standard name s = (readAs st name (s.find? name), s) := by
  simp only [State.lookup, Namespace.standard]
  cases s.find? name with
  | some t => rfl
  | none =>
    simp only [readAs]
    cases st.config.unbound <;> rfl

theorem evaluate_standard {r : Reference} {name : String} {free : IsFreeName name}
    (h : r.name = .named name free) (st : State) (s : Store) :
    (r.evaluate .standard st s).outcome = readAs st name (s.find? name) := by
  rw [Reference.evaluate_named h, lookup_standard]
  cases readAs st name (s.find? name) <;> rfl

theorem place_standard {r : Reference} {name : String} {free : IsFreeName name}
    (h : r.name = .named name free) (st : State) (s : Store) :
    (r.place .standard st s).1 = (readAs st name (s.find? name)).map (.variable name) := by
  simp only [Reference.place, h, lookup_standard]
  cases readAs st name (s.find? name) <;> rfl

theorem set_standard (name : String) (v : Option Value) (s : Store) :
    (s.readOnly = true ∧ Namespace.standard.set name v s = (.error (.readOnlyNamespace name), s)) ∨
      (s.readOnly = false ∧
        Namespace.standard.set name v s = (.ok (), s.bind name ⟨v, v.map Value.descriptor⟩)) := by
  rw [← TypedValue.ofOption_eq]
  cases h : s.readOnly with
  | true => exact .inl ⟨rfl, if_pos h⟩
  | false => exact .inr ⟨rfl, if_neg (by simp [h])⟩

structure Mapped (start w : StandardWorld ν ι) : Prop where
  ident : ∀ n, (w.nodes n).ident = (start.nodes n).ident
  readOnly : ∀ i, (w.stores i).readOnly = (start.stores i).readOnly
  find? : ∀ i name, (w.stores i).find? name = bound start i name w.log
  fixed : ∀ i, (start.stores i).readOnly = true → w.stores i = start.stores i
  answers : Throughout (Event.Conforms start) w.log

theorem writable_of_write {start : StandardWorld ν ι} {before : List (StandardEvent ν ι)}
    {e : StandardEvent ν ι} (h : e.Conforms start before) {x : Write ι}
    (hx : e.write? start.nodes = some x) : (start.stores x.space).readOnly = false := by
  have hanswer {i : ι} {name : String} (h : .ok () = writeAnswer start i name) :
      (start.stores i).readOnly = false := by
    rw [writeAnswer] at h
    split at h
    · contradiction
    · next writable => exact Bool.eq_false_iff.2 writable
  unfold Event.write? at hx
  split at hx
  · rw [← Option.some.inj hx]
    exact hanswer h
  · rw [← Option.some.inj hx]
    exact hanswer h
  · next target t r =>
    obtain ⟨name, htext, rfl⟩ := Option.map_eq_some_iff.1 hx
    simp only [Event.Conforms, htext] at h
    split at h
    · exact absurd h.1 (Option.some_ne_none _)
    · next writable => exact Bool.eq_false_iff.2 writable
  · contradiction

namespace Mapped

variable {start w : StandardWorld ν ι}

theorem advance (h : Mapped start w) {w' : StandardWorld ν ι} {e : StandardEvent ν ι}
    (ident : ∀ n, (w'.nodes n).ident = (w.nodes n).ident) (log : w'.log = e :: w.log)
    (stores : w'.stores = Write.applyTo w.stores (e.write? start.nodes))
    (conforms : e.Conforms start w.log) : Mapped start w' where
  ident n := (ident n).trans (h.ident n)
  readOnly i := by rw [stores, Write.readOnly_applyTo, h.readOnly]
  find? i name := by rw [stores, log, Write.find?_applyTo, bound_cons, h.find?]
  fixed i readOnly := by
    rw [stores, Write.applyTo_of_ne, h.fixed i readOnly]
    rintro x hx rfl
    have writable := writable_of_write conforms hx
    rw [readOnly] at writable
    contradiction
  answers := by
    rw [log]
    exact h.answers.cons conforms

theorem name_eq (h : Mapped start w) (n : ν) : (w.nodes n).name = (start.nodes n).name :=
  congrArg Identifier.name (h.ident n)

theorem text?_eq (h : Mapped start w) (target : Target ν ι) :
    target.text? start.nodes = target.text? w.nodes := (Target.text?_congr h.ident target).symm

theorem writeAnswer_eq (h : Mapped start w) (i : ι) (name : String) (v : Option Value) :
    (Namespace.standard.set name v (w.stores i)).1 = writeAnswer start i name := by
  rw [writeAnswer, ← h.readOnly i]
  rcases set_standard name v (w.stores i) with ⟨readOnly, hset⟩ | ⟨writable, hset⟩
  · rw [hset, if_pos readOnly]
  · rw [hset, if_neg (Bool.eq_false_iff.1 writable)]

theorem update_set (nodes : ν → Reference) (stores : ι → Store) (i : ι) (name : String)
    (v : Option Value) (e : Except EvalError Unit → StandardEvent ν ι)
    (hok : (e (.ok ())).write? nodes = some ⟨i, name, ⟨v, v.map Value.descriptor⟩⟩)
    (herror : ∀ error, (e (.error error)).write? nodes = none) :
    Function.update stores i (Namespace.standard.set name v (stores i)).2 =
      Write.applyTo stores ((e (Namespace.standard.set name v (stores i)).1).write? nodes) := by
  rcases set_standard name v (stores i) with ⟨-, hset⟩ | ⟨-, hset⟩
  · rw [hset, herror, Function.update_eq_self]
    rfl
  · rw [hset, hok]
    rfl

theorem withYielded (h : Mapped start w) (y : Option (Except EvalError TypedValue)) :
    Mapped start (w.withYielded y) := ⟨h.ident, h.readOnly, h.find?, h.fixed, h.answers⟩

theorem settle (h : Mapped start w) {target : Target ν ι} {name : String}
    (htext : target.text? start.nodes = some name)
    (writable : (start.stores target.space).readOnly = false)
    (produced : Except EvalError TypedValue) {w' : StandardWorld ν ι} (nodes : w'.nodes = w.nodes)
    (log : w'.log = .assigned target (some produced) produced :: w.log)
    (stores : w'.stores = Write.applyTo w.stores
      (produced.toOption.map fun t => ⟨target.space, name, t⟩)) : Mapped start w' := by
  have conforms : (Event.assigned target (some produced) produced).Conforms start w.log := by
    simp only [Event.Conforms, htext, writable, Bool.false_eq_true, if_false]
  refine h.advance (fun n => by rw [nodes]) log ?_ conforms
  rw [stores]
  cases produced with
  | error e => rfl
  | ok t => simp only [Event.write?, htext, Except.toOption, Option.map_some]

theorem assign_reserved (h : Mapped start w) {target : Target ν ι}
    (hname : target.text? w.nodes = none) (right : Attempt (StandardWorld ν ι) TypedValue) :
    Mapped start (World.assign (fun _ => .standard) target right w).2 := by
  have htext : target.text? start.nodes = none := (h.text?_eq target).trans hname
  have hrefusal : target.refusal w.nodes = target.refusal start.nodes :=
    Target.refusal_congr h.ident target
  rw [World.assign_reserved hname]
  refine h.advance (fun _ => rfl) rfl rfl ?_
  simp only [Event.Conforms, htext, hrefusal, and_self]

theorem assign_fixed (h : Mapped start w) {target : Target ν ι} {name : String}
    (hname : target.text? w.nodes = some name)
    (readOnly : (w.stores target.space).readOnly = true)
    (right : Attempt (StandardWorld ν ι) TypedValue) :
    Mapped start (World.assign (fun _ => .standard) target right w).2 := by
  have htext : target.text? start.nodes = some name := (h.text?_eq target).trans hname
  rw [World.assign_settled hname (Namespace.standard_assign_of_readOnly readOnly name)]
  refine h.advance (fun _ => rfl) rfl (Function.update_eq_self target.space w.stores) ?_
  simp only [Event.Conforms, htext, ← h.readOnly, readOnly, if_true, and_self]

theorem assign_writable (h : Mapped start w) {target : Target ν ι} {name : String}
    (hname : target.text? w.nodes = some name)
    (writable : (w.stores target.space).readOnly = false)
    {right : Attempt (StandardWorld ν ι) TypedValue}
    (hright : ∀ w, Mapped start w → Mapped start (right w).2) :
    Mapped start (World.assign (fun _ => .standard) target right w).2 := by
  have htext : target.text? start.nodes = some name := (h.text?_eq target).trans hname
  have hfixed : (start.stores target.space).readOnly = false := by rw [← h.readOnly, writable]
  obtain ⟨finish, awaiting, hok, herror⟩ := Namespace.standard_assign_of_writable writable name
  have hbefore : (w.withYielded none).withStore target.space (w.stores target.space) =
      w.withYielded none := by
    simp only [World.withStore, World.withYielded, Function.update_eq_self]
  rw [World.assign_awaiting hname awaiting, hbefore]
  have hinside : Mapped start (right (w.withYielded none)).2 := hright _ (h.withYielded none)
  revert hinside
  rcases right (w.withYielded none) with ⟨e | t, inside⟩
  · intro hinside
    simp only [herror]
    exact hinside.settle htext hfixed (.error e) rfl rfl (Function.update_eq_self _ _)
  · intro hinside
    simp only [hok]
    exact hinside.settle htext hfixed (.ok t) rfl rfl rfl

theorem assign (target : Target ν ι) {right : Attempt (StandardWorld ν ι) TypedValue}
    (hright : ∀ w, Mapped start w → Mapped start (right w).2) (h : Mapped start w) :
    Mapped start (World.assign (fun _ => .standard) target right w).2 := by
  cases hname : target.text? w.nodes with
  | none => exact h.assign_reserved hname right
  | some name =>
    cases readOnly : (w.stores target.space).readOnly with
    | true => exact h.assign_fixed hname readOnly right
    | false => exact h.assign_writable hname readOnly hright

variable [DecidableEq ν]

theorem conforms_perform (h : Mapped start w) (op : Operation ν ι) :
    (Event.performed op (w.perform (fun _ => .standard) op).1).Conforms start w.log := by
  cases op with
  | evaluate n i st =>
    intro name free hname
    have hnode : (w.nodes n).name = .named name free := (h.name_eq n).trans hname
    rw [← h.find?]
    exact evaluate_standard hnode st (w.stores i)
  | takePlace n i st =>
    intro name free hname
    have hnode : (w.nodes n).name = .named name free := (h.name_eq n).trans hname
    rw [← h.find?]
    exact place_standard hnode st (w.stores i)
  | lookup i name => exact congrArg Except.ok (h.find? i name)
  | value i st name =>
    rw [Event.Conforms, ← h.find?]
    exact congrArg Prod.fst (lookup_standard st name (w.stores i))
  | view i =>
    refine ⟨h.find? i, (w.stores i).names_pairwise, fun name => ?_, h.fixed i⟩
    rw [← h.find?]
    exact (w.stores i).mem_names_iff
  | set i name v => exact h.writeAnswer_eq i name v
  | write p i v =>
    rcases p with snapshot | ⟨name, snapshot⟩
    · trivial
    · exact h.writeAnswer_eq i name v
  | _ => trivial

theorem stores_perform (nodes : ν → Reference) (w : StandardWorld ν ι) (op : Operation ν ι) :
    (w.perform (fun _ => .standard) op).2.stores =
      Write.applyTo w.stores
        ((Event.performed op (w.perform (fun _ => .standard) op).1).write? nodes) := by
  have hkept {i : ι} {s : Store} (h : s = w.stores i) : Function.update w.stores i s = w.stores := by
    rw [h, Function.update_eq_self]
  cases op with
  | evaluate n i st => exact hkept ((w.nodes n).evaluate_standard_store st (w.stores i))
  | takePlace n i st => exact hkept ((w.nodes n).place_standard_store st (w.stores i))
  | run p i context => exact hkept (p.run_standard_store context (w.stores i))
  | lookup i name => exact hkept rfl
  | value i st name => exact hkept (st.lookup_standard_store name (w.stores i))
  | set i name v =>
    exact update_set nodes w.stores i name v (.performed (.set i name v)) rfl fun _ => rfl
  | write p i v =>
    rcases p with snapshot | ⟨name, snapshot⟩
    · exact hkept rfl
    · exact update_set nodes w.stores i name v (.performed (.write (.variable name snapshot) i v)) rfl
        fun _ => rfl
  | _ => rfl

theorem perform (h : Mapped start w) (op : Operation ν ι) :
    Mapped start (w.perform (fun _ => .standard) op).2 :=
  h.advance (ident_perform _ op w) (log_perform _ op w) (stores_perform start.nodes w op)
    (h.conforms_perform op)

theorem run (h : Mapped start w) (script : Script ν fun _ : ι => Store) :
    Mapped start (script.run (fun _ => .standard) w).2 :=
  script.run_invariant (fun op _ hw => hw.perform op)
    (fun target _ hright _ hw => hw.assign target hright) h

end Mapped

/-- Clients of standard namespaces see a plain map for each of them: a read gives the last write, or the
initial binding, and unbound is not null. Fixed bindings refuse every write and run no right side. -/
theorem standard_is_plain_map [DecidableEq ν] (nodes : ν → Reference) (stores : ι → Store)
    (script : Script ν fun _ : ι => Store) :
    let start : StandardWorld ν ι := { nodes := nodes, stores := stores }
    let after := (script.run (fun _ => .standard) start).2
    Throughout (Event.Conforms start) after.log ∧
      ∀ i,
        (∀ name, (after.stores i).find? name = bound start i name after.log) ∧
        (after.stores i).names.Pairwise (· < ·) ∧
        (∀ name, name ∈ (after.stores i).names ↔ (bound start i name after.log).isSome = true) ∧
        ((stores i).readOnly = true → after.stores i = stores i) := by
  intro start after
  have hstart : Mapped start start :=
    ⟨fun _ => rfl, fun _ => rfl, fun _ _ => rfl, fun _ _ => rfl, .nil⟩
  have hafter : Mapped start after := hstart.run script
  refine ⟨hafter.answers, fun i => ⟨hafter.find? i, (after.stores i).names_pairwise, fun name => ?_,
    hafter.fixed i⟩⟩
  rw [← hafter.find? i name]
  exact (after.stores i).mem_names_iff

theorem standard_is_plain_map_null :
    -- The right side of an assignment writes the very name before it yields null.
    let stores : Bool → Store := fun fixed => .ofList [("x", .ofValue (.int 0))] fixed
    let script : Script Empty fun _ : Bool => Store :=
      .assign (.name true "x") (.done (.ok .null)) fun _ =>
        .assign (.name false "x")
          (.perform (.write (.variable "x" .null) false (some (.int 1))) fun _ => .done (.ok .null))
          fun _ => .perform (.set false "y" (some (.int 2))) fun _ => .done (.ok .null)
    let start : StandardWorld Empty Bool := { nodes := Empty.elim, stores := stores }
    let after := (script.run (fun _ => .standard) start).2
    (stores true).readOnly = true ∧ after.stores true = stores true ∧
      (after.stores false).find? "x" = some ⟨none, none⟩ ∧
      (after.stores false).find? "y" = some ⟨some (.int 2), some .int⟩ ∧
      (after.stores false).find? "z" = none := by
  intro stores script start after
  obtain ⟨-, hstores⟩ := standard_is_plain_map Empty.elim stores script
  have hfixed : after.stores true = stores true := (hstores true).2.2.2 rfl
  have hbound (name : String) : (after.stores false).find? name = bound start false name after.log :=
    (hstores false).1 name
  exact ⟨rfl, hfixed, hbound "x", hbound "y", hbound "z"⟩

end Sigil.Client
