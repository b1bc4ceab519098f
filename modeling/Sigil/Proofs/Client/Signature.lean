import Sigil.Proofs.Client.Script
import Sigil.Proofs.Reference.Tiers

/-! The exit signatures of references that clients share. Whatever else is done, and over whatever states and
namespaces, the signature of a reference is the type of what its latest evaluation returned that succeeded
and was not one of `#this` in a nested scope. -/

namespace Sigil.Client

variable {ν ι : Type} {σ : ι → Type} [DecidableEq ν]

def Event.recorded (n : ν) (name : VariableName) : Event ν σ → Option Descriptor
  | .performed (.evaluate m _ st) (.ok t) =>
    if m = n ∧ ¬(name = .this ∧ st.isNested = true) then some (exitDescriptor t.value) else none
  | _ => none

theorem recorded_evaluate_of_ne {m n : ν} (h : m ≠ n) {i : ι} {st : State} {name : VariableName}
    (a : Except EvalError TypedValue) :
    (Event.performed (σ := σ) (.evaluate m i st) a).recorded n name = none := by
  cases a with
  | error e => rfl
  | ok t => exact if_neg fun hn => h hn.1

def lastRecorded (n : ν) (name : VariableName) (log : List (Event ν σ)) : Option Descriptor :=
  log.findSome? (Event.recorded n name)

theorem lastRecorded_cons (n : ν) (name : VariableName) (e : Event ν σ) (log : List (Event ν σ)) :
    lastRecorded n name (e :: log) = (e.recorded n name).or (lastRecorded n name log) := by
  rw [lastRecorded, List.findSome?_cons]
  cases e.recorded n name <;> rfl

theorem lastRecorded_append (n : ν) (name : VariableName) (p q : List (Event ν σ)) :
    lastRecorded n name (p ++ q) = (lastRecorded n name p).or (lastRecorded n name q) :=
  List.findSome?_append

theorem isAccessible_of_lastRecorded {n : ν} {name : VariableName} {log : List (Event ν σ)}
    {d : Descriptor} (h : lastRecorded n name log = some d) : d.isAccessible = true := by
  obtain ⟨e, -, he⟩ := List.exists_of_findSome?_eq_some h
  unfold Event.recorded at he
  split at he
  · split at he
    · rw [← Option.some.inj he]
      exact isAccessible_exitDescriptor _
    · contradiction
  · contradiction

/-- What a reading of a signature has to be, given what came before it. -/
def Event.Reads (start : ν → Reference) (before : List (Event ν σ)) : Event ν σ → Prop
  | .performed (.describe n) d => d = (lastRecorded n (start n).name before).or (start n).exit
  | _ => True

structure Signed (start : ν → Reference) (w : World ν σ) : Prop where
  ident : ∀ n, (w.nodes n).ident = (start n).ident
  exit : ∀ n, (w.nodes n).exit = (lastRecorded n (start n).name w.log).or (start n).exit
  readings : Throughout (Event.Reads start) w.log

theorem Signed.of_assigned {start : ν → Reference} {w : World ν σ} (h : Signed start w)
    (w' : World ν σ) (nodes : w'.nodes = w.nodes) (target : Target ν ι)
    (y : Option (Except EvalError TypedValue)) (r : Except EvalError TypedValue)
    (log : w'.log = .assigned target y r :: w.log) : Signed start w' where
  ident := nodes ▸ h.ident
  exit n := by
    rw [nodes, log, lastRecorded_cons, h.exit n]
    rfl
  readings := by
    rw [log]
    exact h.readings.cons trivial

variable [DecidableEq ι]

theorem exit_perform (spaces : ∀ i, Namespace (σ i)) (op : Operation ν ι) (w : World ν σ) (n : ν) :
    ((w.perform spaces op).2.nodes n).exit =
      ((Event.performed op (w.perform spaces op).1).recorded n (w.nodes n).name).or
        (w.nodes n).exit := by
  cases op with
  | evaluate m i st =>
    by_cases hm : m = n
    · subst hm
      have hnode : (w.perform spaces (.evaluate m i st)).2.nodes m =
          ((w.nodes m).evaluate (spaces i) st (w.stores i)).reference := Function.update_self ..
      have hanswer : (w.perform spaces (.evaluate m i st)).1 =
          ((w.nodes m).evaluate (spaces i) st (w.stores i)).outcome := rfl
      rw [hnode, hanswer]
      rcases (w.nodes m).evaluate_cases (spaces i) st (w.stores i) with
        ⟨e, houtcome, hreference⟩ | ⟨t, houtcome, ⟨nested, hreference⟩ | ⟨atRoot, hreference⟩⟩
      · rw [houtcome, hreference]
        rfl
      · rw [houtcome, hreference]
        simp [Event.recorded, nested]
      · rw [houtcome, hreference, Event.recorded, if_pos ⟨rfl, atRoot⟩]
        rfl
    · have hnode : (w.perform spaces (.evaluate m i st)).2.nodes n = w.nodes n :=
        Function.update_of_ne (Ne.symm hm) ..
      rw [hnode, recorded_evaluate_of_ne hm]
      rfl
  | _ => rfl

theorem ident_perform (spaces : ∀ i, Namespace (σ i)) (op : Operation ν ι) (w : World ν σ) (n : ν) :
    ((w.perform spaces op).2.nodes n).ident = (w.nodes n).ident := by
  cases op with
  | evaluate m i st =>
    by_cases hm : m = n
    · subst hm
      have hnode : (w.perform spaces (.evaluate m i st)).2.nodes m =
          ((w.nodes m).evaluate (spaces i) st (w.stores i)).reference := Function.update_self ..
      rw [hnode, Reference.evaluate_ident]
    · exact congrArg Reference.ident (Function.update_of_ne (Ne.symm hm) _ w.nodes)
  | _ => rfl

theorem log_perform (spaces : ∀ i, Namespace (σ i)) (op : Operation ν ι) (w : World ν σ) :
    (w.perform spaces op).2.log = .performed op (w.perform spaces op).1 :: w.log := by
  cases op <;> rfl

namespace Signed

variable {start : ν → Reference} {w : World ν σ}

theorem reads_perform (h : Signed start w) (spaces : ∀ i, Namespace (σ i)) (op : Operation ν ι) :
    (Event.performed op (w.perform spaces op).1).Reads start w.log := by
  cases op with
  | describe n => exact h.exit n
  | _ => trivial

theorem perform (h : Signed start w) (spaces : ∀ i, Namespace (σ i)) (op : Operation ν ι) :
    Signed start (w.perform spaces op).2 where
  ident n := (ident_perform spaces op w n).trans (h.ident n)
  exit n := by
    have hname : (w.nodes n).name = (start n).name := congrArg Identifier.name (h.ident n)
    rw [exit_perform, log_perform, lastRecorded_cons, h.exit n, hname, Option.or_assoc]
  readings := by
    rw [log_perform]
    exact h.readings.cons (h.reads_perform spaces op)

theorem assign (spaces : ∀ i, Namespace (σ i)) (target : Target ν ι)
    {right : Attempt (World ν σ) TypedValue}
    (hright : ∀ w, Signed start w → Signed start (right w).2) (h : Signed start w) :
    Signed start (World.assign spaces target right w).2 := by
  cases htext : target.text? w.nodes with
  | none =>
    rw [World.assign_reserved htext]
    exact h.of_assigned _ rfl target _ _ rfl
  | some text =>
    cases hassign : (spaces target.space).assign text (w.stores target.space) with
    | settled r s =>
      rw [World.assign_settled htext hassign]
      exact h.of_assigned _ rfl target _ _ rfl
    | awaiting s finish =>
      have hinside : Signed start (right ((w.withYielded none).withStore target.space s)).2 :=
        hright _ ⟨h.ident, h.exit, h.readings⟩
      rw [World.assign_awaiting htext hassign]
      exact hinside.of_assigned _ rfl target _ _ rfl

theorem run (h : Signed start w) (spaces : ∀ i, Namespace (σ i)) (script : Script ν σ) :
    Signed start (script.run spaces w).2 :=
  script.run_invariant (fun op _ hw => hw.perform spaces op)
    (fun target _ hright _ hw => hw.assign spaces target hright) h

end Signed

/-- The exit signature of a fresh reference is unset until an evaluation records. From then on it is the
exit type of what the latest recording evaluation returned, under whatever declared type. -/
theorem exit_follows_latest_recording (idents : ν → Identifier) (spaces : ∀ i, Namespace (σ i))
    (stores : ∀ i, σ i) (script : Script ν σ) (n : ν) :
    let start : World ν σ := { nodes := fun n => .ofIdentifier (idents n), stores := stores }
    let after := (script.run spaces start).2
    let latest := lastRecorded n (idents n).name
    (after.nodes n).exit = latest after.log ∧
      (∀ type, (after.nodes n).exit = some type → type.isAccessible = true) ∧
      (∀ d before, .performed (.describe n) d :: before <:+ after.log →
        d = latest before ∧ ∀ type, d = some type → type.isAccessible = true) ∧
      ∀ d between d' before,
        .performed (.describe n) d :: (between ++ .performed (.describe n) d' :: before) <:+ after.log →
          ((∀ e ∈ between, e.recorded n (idents n).name = none) → d = d') ∧
            (d'.isSome = true → d.isSome = true) := by
  intro start after latest
  have hsigned : Signed start.nodes after :=
    Signed.run ⟨fun _ => rfl, fun _ => rfl, .nil⟩ spaces script
  have hexit : (after.nodes n).exit = latest after.log := (hsigned.exit n).trans (Option.or_none ..)
  have hreading (d : ExitSignature) (before : List (Event ν σ))
      (h : .performed (.describe n) d :: before <:+ after.log) : d = latest before := by
    have hreads : d = (latest before).or none := hsigned.readings before _ h
    rw [hreads, Option.or_none]
  refine ⟨hexit, fun type htype => ?_, fun d before h => ⟨hreading d before h, ?_⟩, ?_⟩
  · exact isAccessible_of_lastRecorded (hexit.symm.trans htype)
  · rintro type rfl
    exact isAccessible_of_lastRecorded (hreading (some type) before h).symm
  · intro d between d' before h
    have hearlier : d' = latest before :=
      hreading d' before ((List.suffix_append _ _).trans ((List.suffix_cons _ _).trans h))
    have hbehind : latest (.performed (.describe n) d' :: before) = latest before :=
      lastRecorded_cons ..
    have hlater : d = (latest between).or d' := by
      rw [hreading d _ h, hearlier, ← hbehind]
      exact lastRecorded_append ..
    refine ⟨fun hnone => ?_, fun hset => ?_⟩
    · have hbetween : latest between = none := List.findSome?_eq_none_iff.2 hnone
      rw [hlater, hbetween, Option.none_or]
    · rw [hlater, Option.isSome_or, hset, Bool.or_true]

theorem exit_follows_latest_recording_reentrant :
    -- The right side of an assignment to the reference evaluates the reference itself.
    let x : Identifier := ⟨.named "x" (by decide), .unlocated⟩
    let one : TypedValue := .ofValue (.int 1)
    let text : TypedValue := .declaring (some (.string "one")) .list
    let stores : Bool → Store := fun i => .ofList [("x", if i then text else one)] false
    let st : State := ⟨.null, [], {}⟩
    let refused : Except EvalError TypedValue := .error (.namespaceFailure "refused")
    let script : Script Unit fun _ : Bool => Store :=
      .perform (.evaluate () false st) fun _ => .perform (.describe ()) fun _ =>
        .assign (.node () false) (.perform (.evaluate () true st) fun _ => .done refused) fun _ =>
          .perform (.describe ()) fun _ => .done (.ok .null)
    let start : World Unit fun _ : Bool => Store :=
      { nodes := fun _ => .ofIdentifier x, stores := stores }
    let log := (script.run (fun _ => .standard) start).2.log
    ∃ between before,
      log = .performed (.describe ()) (some .string) ::
        (between ++ .performed (.describe ()) (some .int) :: before) ∧
      lastRecorded () x.name before = some .int ∧
      lastRecorded () x.name (between ++ .performed (.describe ()) (some .int) :: before) =
        some .string ∧
      Descriptor.string.isAccessible = true := by
  intro x one text stores st refused script start log
  let between : List (Event Unit fun _ : Bool => Store) :=
    [.assigned (.node () false) (some refused) refused, .performed (.evaluate () true st) (.ok text)]
  let before : List (Event Unit fun _ : Bool => Store) :=
    [.performed (.evaluate () false st) (.ok one)]
  have hlog : log = .performed (.describe ()) (some .string) ::
      (between ++ .performed (.describe ()) (some .int) :: before) := rfl
  have hearlier : .performed (.describe ()) (some .int) :: before <:+ log :=
    ⟨.performed (.describe ()) (some .string) :: between, hlog.symm⟩
  have hlater : .performed (.describe ()) (some .string) ::
      (between ++ .performed (.describe ()) (some .int) :: before) <:+ log := ⟨[], hlog.symm⟩
  obtain ⟨-, -, hreading, -⟩ :=
    exit_follows_latest_recording (fun _ => x) (fun _ => .standard) stores script ()
  obtain ⟨hstring, haccessible⟩ := hreading (some .string) _ hlater
  exact ⟨between, before, hlog, (hreading (some .int) before hearlier).1.symm, hstring.symm,
    haccessible .string rfl⟩

end Sigil.Client
