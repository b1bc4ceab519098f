import Mathlib.Data.List.TakeWhile
import Sigil.Namespace.Store
import Sigil.Session.Basic

/-! Chains of assignments: each reference is assigned what the assignment to the next one returns. A chain
either stores one value under all its names, or leaves the bindings as they were and returns the error of
the first level that refuses, or of the innermost right side. No right side is run twice. -/

namespace Sigil

variable {σ ω : Type}

structure Watched (ω : Type) where
  world : ω
  ran : List Nat := []
  returned : List (Nat × Except EvalError TypedValue) := []

namespace Watched

def part (part : Part ω σ) : Part (Watched ω) σ where
  get w := part.get w.world
  put s w := { w with world := part.put s w.world }

def inside : Part (Watched ω) ω := ⟨Watched.world, fun world w => { w with world := world }⟩

def running (level : Nat) (right : Attempt (Watched ω) TypedValue) : Attempt (Watched ω) TypedValue :=
  fun w => right { w with ran := w.ran ++ [level] }

def returning (level : Nat) (assignment : Attempt (Watched ω) TypedValue) :
    Attempt (Watched ω) TypedValue := fun w =>
  let (r, w) := assignment w
  (r, { w with returned := w.returned ++ [(level, r)] })

end Watched

namespace Store

def bindAll (names : List String) (t : TypedValue) (s : Store) : Store :=
  names.foldr (fun name s => s.bind name t) s

@[simp] theorem bindAll_nil (t : TypedValue) (s : Store) : bindAll [] t s = s := rfl

@[simp] theorem bindAll_cons (name : String) (names : List String) (t : TypedValue) (s : Store) :
    bindAll (name :: names) t s = (bindAll names t s).bind name t := rfl

@[simp] theorem readOnly_bindAll (names : List String) (t : TypedValue) (s : Store) :
    (bindAll names t s).readOnly = s.readOnly := by
  induction names with
  | nil => rfl
  | cons name names ih => rw [bindAll_cons, readOnly_bind, ih]

theorem find?_bindAll (names : List String) (t : TypedValue) (s : Store) (name : String) :
    (bindAll names t s).find? name = if name ∈ names then some t else s.find? name := by
  induction names with
  | nil => simp
  | cons n names ih =>
    by_cases h : name = n
    · subst h
      simp
    · rw [bindAll_cons, find?_bind_of_ne _ h, ih]
      simp [h]

def bindOutcome (names : List String) (s : Store) : Except EvalError TypedValue → Store
  | .ok t => s.bindAll names t
  | .error _ => s

theorem bindOutcome_nil (s : Store) (r : Except EvalError TypedValue) : s.bindOutcome [] r = s := by
  cases r <;> rfl

theorem bindOutcome_cons (name : String) (names : List String) (s : Store)
    (r : Except EvalError TypedValue) :
    s.bindOutcome (name :: names) r = (s.bindOutcome names r).bindOutcome [name] r := by
  cases r <;> rfl

end Store

namespace Watched

def settle (level : Nat) (names : List String) (r : Except EvalError TypedValue)
    (w : Watched (Session Store)) : Watched (Session Store) where
  world := { w.world with store := w.world.store.bindOutcome names r }
  ran := w.ran
  returned := w.returned ++ (List.range' level names.length).reverse.map fun n => (n, r)

theorem settle_nil (level : Nat) (r : Except EvalError TypedValue) (w : Watched (Session Store)) :
    w.settle level [] r = w := by
  simp [settle, Store.bindOutcome_nil]

theorem settle_cons (level : Nat) (name : String) (names : List String)
    (r : Except EvalError TypedValue) (w : Watched (Session Store)) :
    w.settle level (name :: names) r = (w.settle (level + 1) names r).settle level [name] r := by
  simp [settle, Store.bindOutcome_cons name names, List.range'_succ]

end Watched

namespace Reference

/-- Assigns to each reference what the assignment to the next one returns, and to the last what the
innermost right side yields. The levels are counted from the outermost on. -/
def assignAll (ns : Namespace σ) (part : Part ω σ) (innermost : Attempt ω TypedValue) :
    Nat → List Reference → Attempt (Watched ω) TypedValue
  | _, [] => Watched.inside.lift innermost
  | level, r :: rs =>
    Watched.returning level
      (r.assign ns (Watched.part part)
        (Watched.running level (assignAll ns part innermost (level + 1) rs)))

theorem exists_named_of_isWritable {r : Reference} (h : r.isWritable = true) :
    ∃ text free, r.name = .named text free := by
  cases hname : r.name with
  | named text free => exact ⟨text, free, rfl⟩
  | _ => simp [isWritable, hname, VariableName.isReserved] at h

theorem assign_writable {r : Reference} (h : r.isWritable = true) {w : Watched (Session Store)}
    (writable : w.world.store.readOnly = false) (right : Attempt (Watched (Session Store)) TypedValue) :
    r.assign .standard (Watched.part Session.storePart) right w =
      let (produced, w) := right w
      (produced, { w with world :=
        { w.world with store := w.world.store.bindOutcome [r.name.text] produced } }) := by
  obtain ⟨text, free, hname⟩ := exists_named_of_isWritable h
  obtain ⟨finish, awaiting, hok, herror⟩ := Namespace.standard_assign_of_writable writable text
  have hassign : Namespace.standard.assign text ((Watched.part Session.storePart).get w) =
      .awaiting w.world.store finish := awaiting
  have hput : (Watched.part Session.storePart).put w.world.store w = w := rfl
  rw [assign_named hname]
  simp only [Namespace.assignIn, hassign, hput, hname]
  rcases right w with ⟨e | t, w'⟩
  · simp only [Part.lift, herror]
    rfl
  · simp only [Part.lift, hok]
    rfl

theorem assign_readOnly {r : Reference} (h : r.isWritable = true) {w : Watched (Session Store)}
    (readOnly : w.world.store.readOnly = true) (right : Attempt (Watched (Session Store)) TypedValue) :
    r.assign .standard (Watched.part Session.storePart) right w =
      (.error (.readOnlyNamespace r.name.text), w) := by
  obtain ⟨text, free, hname⟩ := exists_named_of_isWritable h
  have hassign : Namespace.standard.assign text ((Watched.part Session.storePart).get w) =
      .settled (.error (.readOnlyNamespace text)) w.world.store :=
    Namespace.standard_assign_of_readOnly readOnly text
  rw [assign_named hname]
  simp only [Namespace.assignIn, hassign, hname]
  rfl

theorem assignAll_cons {r : Reference} (h : r.isWritable = true)
    (innermost : Attempt (Session Store) TypedValue) (rs : List Reference) (level : Nat)
    {w : Watched (Session Store)} (writable : w.world.store.readOnly = false) :
    let below := assignAll .standard Session.storePart innermost (level + 1) rs
      { w with ran := w.ran ++ [level] }
    assignAll .standard Session.storePart innermost level (r :: rs) w =
      (below.1, below.2.settle level [r.name.text] below.1) := by
  intro below
  simp only [assignAll, Watched.returning, assign_writable h writable, Watched.running]
  rfl

theorem assignAll_append {rs : List Reference} (h : ∀ r ∈ rs, r.isWritable = true)
    (innermost : Attempt (Session Store) TypedValue) (rest : List Reference) (level : Nat)
    {w : Watched (Session Store)} (writable : w.world.store.readOnly = false) :
    let below := assignAll .standard Session.storePart innermost (level + rs.length) rest
      { w with ran := w.ran ++ List.range' level rs.length }
    assignAll .standard Session.storePart innermost level (rs ++ rest) w =
      (below.1, below.2.settle level (rs.map fun r => r.name.text) below.1) := by
  induction rs generalizing level w with
  | nil => simp [Watched.settle_nil]
  | cons r rs ih =>
    obtain ⟨hr, hrs⟩ := List.forall_mem_cons.1 h
    intro below
    -- The right side of the first level is the chain behind it, in the same world.
    have htail := ih hrs (level + 1) (w := { w with ran := w.ran ++ [level] }) writable
    have hbelow : assignAll .standard Session.storePart innermost (level + 1 + rs.length) rest
        { w with ran := w.ran ++ [level] ++ List.range' (level + 1) rs.length } = below := by
      simp only [below, List.length_cons, List.range'_succ, List.append_assoc, List.singleton_append,
        Nat.add_assoc, Nat.add_comm 1]
    simp only [hbelow] at htail
    rw [List.cons_append, assignAll_cons hr _ _ _ writable, htail, List.map_cons,
      Watched.settle_cons level r.name.text (rs.map fun r => r.name.text)]

def refusal (r : Reference) : EvalError :=
  if r.isWritable then .readOnlyNamespace r.name.text else .unsupportedAssignment r.name.text

theorem assignAll_refused {r : Reference} {w : Watched (Session Store)}
    (h : r.isWritable = false ∨ w.world.store.readOnly = true)
    (innermost : Attempt (Session Store) TypedValue) (rs : List Reference) (level : Nat) :
    assignAll .standard Session.storePart innermost level (r :: rs) w =
      (.error r.refusal, w.settle level [r.name.text] (.error r.refusal)) := by
  cases hr : r.isWritable with
  | false =>
    simp only [assignAll, Watched.returning, assign_reserved hr, refusal, hr]
    rfl
  | true =>
    have readOnly : w.world.store.readOnly = true := h.resolve_left (by simp [hr])
    simp only [assignAll, Watched.returning, assign_readOnly hr readOnly, refusal, hr]
    rfl

theorem assignAll_writable {rs : List Reference} (h : ∀ r ∈ rs, r.isWritable = true) {w : Session Store}
    (writable : w.store.readOnly = false) (innermost : Attempt (Session Store) TypedValue) :
    assignAll .standard Session.storePart innermost 1 rs ⟨w, [], []⟩ =
      ((innermost w).1, Watched.settle 1 (rs.map fun r => r.name.text) (innermost w).1
        ⟨(innermost w).2, List.range' 1 rs.length, []⟩) := by
  have happend := assignAll_append h innermost [] 1 (w := ⟨w, [], []⟩) writable
  rw [List.append_nil] at happend
  exact happend

theorem assignAll_reserved {rs : List Reference} (h : ∀ r ∈ rs, r.isWritable = true) {r : Reference}
    (reserved : r.isWritable = false) {w : Session Store} (writable : w.store.readOnly = false)
    (innermost : Attempt (Session Store) TypedValue) (rest : List Reference) :
    assignAll .standard Session.storePart innermost 1 (rs ++ r :: rest) ⟨w, [], []⟩ =
      (.error r.refusal, ⟨w, List.range' 1 rs.length,
        (List.range' 1 (rs.length + 1)).reverse.map fun level => (level, .error r.refusal)⟩) := by
  have happend := assignAll_append h innermost (r :: rest) 1 (w := ⟨w, [], []⟩) writable
  rw [assignAll_refused (.inl reserved)] at happend
  rw [happend]
  simp [Watched.settle, Store.bindOutcome, List.range'_concat, Nat.add_comm 1]

theorem takeWhile_isWritable_cases (rs : List Reference) :
    ((∀ r ∈ rs, r.isWritable = true) ∧ rs.takeWhile isWritable = rs) ∨
      ∃ r rest, rs = rs.takeWhile isWritable ++ r :: rest ∧ r.isWritable = false := by
  have hsplit : rs.takeWhile isWritable ++ rs.dropWhile isWritable = rs :=
    List.takeWhile_append_dropWhile
  cases hrest : rs.dropWhile isWritable with
  | nil =>
    rw [hrest, List.append_nil] at hsplit
    exact .inl ⟨fun r hr => List.mem_takeWhile_imp (hsplit.symm ▸ hr), hsplit⟩
  | cons r rest =>
    have hhead := List.head?_dropWhile_not isWritable rs
    rw [hrest] at hhead hsplit
    exact .inr ⟨r, rest, hsplit.symm, hhead⟩

end Reference

def Producer.IsLeaf : Producer → Prop
  | .assign _ _ => False
  | _ => True

theorem Node.evaluate_standard_store (n : Node) (st : State) (s : Store) :
    (n.evaluate .standard st s).2.1 = s := by
  cases n with
  | host h => rfl
  | reference r => exact r.evaluate_standard_store st s

theorem Producer.IsLeaf.store_run {p : Producer} (h : p.IsLeaf) (w : Session Store) :
    (p.run .standard w).2.store = w.store := by
  cases p with
  | value t => rfl
  | fail e => rfl
  | evaluate id =>
    simp only [Producer.run, Session.evaluate]
    split
    · rfl
    · next n hn => exact n.evaluate_standard_store w.state w.store
  | assign id right => exact h.elim

namespace Reference

/-- How many right sides of a chain are run: those of the references in front of the first reserved one,
and none over a store that is not writable. -/
def levelsRun (readOnly : Bool) (chain : List Reference) : Nat :=
  if readOnly then 0 else (chain.takeWhile isWritable).length

def outcome (readOnly : Bool) (chain : List Reference) (yielded : Except EvalError TypedValue) :
    Except EvalError TypedValue :=
  match chain[levelsRun readOnly chain]? with
  | some r => .error r.refusal
  | none => yielded

theorem levelsRun_eq_length_iff {readOnly : Bool} {chain : List Reference} (hne : chain ≠ []) :
    levelsRun readOnly chain = chain.length ↔
      readOnly = false ∧ ∀ r ∈ chain, r.isWritable = true := by
  have hprefix : chain.takeWhile isWritable <+: chain := List.takeWhile_prefix _
  cases readOnly with
  | true =>
    have hpos : 0 < chain.length := List.length_pos_iff.2 hne
    simp only [levelsRun, if_true]
    exact ⟨fun h => by omega, fun h => by simp at h⟩
  | false =>
    rw [← List.takeWhile_eq_self_iff]
    exact ⟨fun h => ⟨rfl, hprefix.eq_of_length h⟩, fun h => congrArg List.length h.2⟩

theorem levelsRun_le_length (readOnly : Bool) (chain : List Reference) :
    levelsRun readOnly chain ≤ chain.length := by
  cases readOnly with
  | true => exact Nat.zero_le _
  | false => exact (List.takeWhile_prefix isWritable).length_le

theorem outcome_of_refused {readOnly : Bool} {chain : List Reference} {r : Reference}
    (h : chain[levelsRun readOnly chain]? = some r) (yielded : Except EvalError TypedValue) :
    outcome readOnly chain yielded = .error r.refusal := by
  rw [outcome, h]

theorem outcome_of_completed {readOnly : Bool} {chain : List Reference}
    (h : levelsRun readOnly chain = chain.length) (yielded : Except EvalError TypedValue) :
    outcome readOnly chain yielded = yielded := by
  rw [outcome, h, List.getElem?_eq_none (Nat.le_refl _)]

theorem assignAll_eq (r : Reference) (rs : List Reference) {leaf : Producer} (isLeaf : leaf.IsLeaf)
    (w : Session Store) :
    let chain := r :: rs
    let levels := levelsRun w.store.readOnly chain
    let produced := outcome w.store.readOnly chain (leaf.run .standard w).1
    ∃ world, world.store = w.store.bindOutcome (chain.map fun r => r.name.text) produced ∧
      assignAll .standard Session.storePart (leaf.run .standard) 1 chain ⟨w, [], []⟩ =
        (produced, ⟨world, List.range' 1 levels,
          (List.range' 1 (min (levels + 1) chain.length)).reverse.map fun level =>
            (level, produced)⟩) := by
  intro chain levels produced
  by_cases readOnly : w.store.readOnly = true
  · have hlevels : levels = 0 := if_pos readOnly
    have hget : chain[levels]? = some r := by
      rw [hlevels]
      rfl
    rw [hlevels, show produced = .error r.refusal from outcome_of_refused hget _]
    refine ⟨_, rfl, (assignAll_refused (.inr readOnly) (leaf.run .standard) rs 1).trans ?_⟩
    simp [Watched.settle, chain, Store.bindOutcome]
  have writable : w.store.readOnly = false := Bool.eq_false_iff.2 readOnly
  have hlevels : levels = (chain.takeWhile isWritable).length := if_neg readOnly
  rcases takeWhile_isWritable_cases chain with ⟨hall, htake⟩ | ⟨refused, rest, hchain, hreserved⟩
  · have hcompleted : levels = chain.length := by rw [hlevels, htake]
    have hproduced : produced = (leaf.run .standard w).1 := outcome_of_completed hcompleted _
    have hstore : (leaf.run .standard w).2.store = w.store := isLeaf.store_run w
    rw [hcompleted, hproduced, Nat.min_eq_right (Nat.le_succ _)]
    refine ⟨{ (leaf.run .standard w).2 with store := w.store.bindOutcome _ (leaf.run .standard w).1 },
      rfl, (assignAll_writable hall writable (leaf.run .standard)).trans ?_⟩
    simp [Watched.settle, hstore]
  · have hnamed : ∀ r ∈ chain.takeWhile isWritable, r.isWritable = true :=
      fun _ hr => List.mem_takeWhile_imp hr
    have hget : chain[levels]? = some refused := by
      rw [hlevels, congrArg (fun chain : List Reference => chain[_]?) hchain,
        List.getElem?_append_right (Nat.le_refl _), Nat.sub_self, List.getElem?_cons_zero]
    have hlevel : levels < chain.length := (List.getElem?_eq_some_iff.1 hget).1
    have hrun := assignAll_reserved hnamed hreserved writable (leaf.run .standard) rest
    rw [← hchain, ← hlevels] at hrun
    rw [show produced = .error refused.refusal from outcome_of_refused hget _, Nat.min_eq_left hlevel]
    exact ⟨w, rfl, hrun⟩

/-- A chain of assignments binds all its names to one value or nothing at all, and then every level that
was entered returns the one error. -/
theorem assignAll_all_or_nothing (r : Reference) (rs : List Reference) (leaf : Producer)
    (isLeaf : leaf.IsLeaf) (w : Session Store) :
    let chain := r :: rs
    let yielded := (leaf.run .standard w).1
    let run := assignAll .standard Session.storePart (leaf.run .standard) 1 chain ⟨w, [], []⟩
    let depth := if w.store.readOnly then 0 else (chain.takeWhile isWritable).length
    run.2.ran = List.range' 1 depth ∧
      (∀ v, w.store.readOnly = false → (∀ r ∈ chain, r.isWritable = true) → yielded = .ok v →
        run.1 = .ok v ∧ depth = chain.length ∧
          run.2.returned = (List.range' 1 chain.length).reverse.map (fun level => (level, .ok v)) ∧
          run.2.world.store.readOnly = false ∧
          ∀ name, run.2.world.store.find? name =
            if name ∈ chain.map (fun r => r.name.text) then some v else w.store.find? name) ∧
      (¬(w.store.readOnly = false ∧ (∀ r ∈ chain, r.isWritable = true) ∧ ∃ v, yielded = .ok v) →
        ∃ e, run.1 = .error e ∧ run.2.world.store = w.store ∧
          run.2.returned =
            (List.range' 1 (min (depth + 1) chain.length)).reverse.map (fun level => (level, .error e)) ∧
          match chain[depth]? with
          | some r => e = r.refusal
          | none => yielded = .error e) := by
  intro chain yielded run depth
  obtain ⟨world, hstore, hrun⟩ :
      ∃ world, world.store = w.store.bindOutcome (chain.map fun r => r.name.text)
          (outcome w.store.readOnly chain yielded) ∧
        run = (outcome w.store.readOnly chain yielded, ⟨world, List.range' 1 depth,
          (List.range' 1 (min (depth + 1) chain.length)).reverse.map fun level =>
            (level, outcome w.store.readOnly chain yielded)⟩) := assignAll_eq r rs isLeaf w
  have hcompleted : depth = chain.length ↔
      w.store.readOnly = false ∧ ∀ r ∈ chain, r.isWritable = true :=
    levelsRun_eq_length_iff (List.cons_ne_nil r rs)
  rw [hrun]
  refine ⟨rfl, ?_, ?_⟩
  · intro v writable hall hv
    have hdepth : depth = chain.length := hcompleted.2 ⟨writable, hall⟩
    rw [outcome_of_completed hdepth, hv] at hstore ⊢
    simp only [hdepth, hstore, Store.bindOutcome, Store.readOnly_bindAll, Store.find?_bindAll,
      Nat.min_eq_right (Nat.le_succ _)]
    exact ⟨trivial, trivial, trivial, writable, fun _ => trivial⟩
  · intro hfails
    cases hget : chain[depth]? with
    | some refused =>
      rw [outcome_of_refused hget] at hstore ⊢
      exact ⟨_, rfl, hstore, rfl, rfl⟩
    | none =>
      have hdepth : depth = chain.length :=
        Nat.le_antisymm (levelsRun_le_length _ chain) (List.getElem?_eq_none_iff.1 hget)
      obtain ⟨writable, hall⟩ := hcompleted.1 hdepth
      rw [outcome_of_completed hdepth] at hstore ⊢
      cases hyielded : yielded with
      | ok v => exact absurd ⟨writable, hall, v, hyielded⟩ hfails
      | error e =>
        rw [hyielded] at hstore
        exact ⟨e, rfl, hstore, rfl, rfl⟩

theorem assignAll_all_or_nothing_repeated :
    -- A name that occurs twice, and then a reserved reference in the middle of the chain.
    let a : Reference := ofIdentifier ⟨.named "a" (by decide), .unlocated⟩
    let b : Reference := ofIdentifier ⟨.named "b" (by decide), .unlocated⟩
    let root : Reference := ofIdentifier ⟨.root, .unlocated⟩
    let one : TypedValue := .ofValue (.int 1)
    let seven : TypedValue := .declaring (some (.int 7)) .any
    let w : Session Store :=
      { store := .ofList [("a", one)] false, state := ⟨seven, [], {}⟩,
        nodes := .ofList [("r", .reference root)] }
    let run (chain : List Reference) :=
      assignAll .standard Session.storePart (Producer.run .standard (.evaluate "r")) 1 chain ⟨w, [], []⟩
    (run [a, b, a]).1 = .ok seven ∧ (run [a, b, a]).2.ran = [1, 2, 3] ∧
      (run [a, b, a]).2.world.store.find? "a" = some seven ∧
      (run [a, b, a]).2.world.store.find? "b" = some seven ∧
      (run [a, b, root, b]).2.ran = [1, 2] ∧
      (run [a, b, root, b]).2.world.store.find? "a" = some one ∧
      (run [a, b, root, b]).2.returned.map Prod.fst = [3, 2, 1] := by
  intro a b root one seven w run
  have stored := assignAll_all_or_nothing a [b, a] (.evaluate "r") trivial w
  have refused := assignAll_all_or_nothing a [b, root, b] (.evaluate "r") trivial w
  obtain ⟨hvalue, -, -, -, hfind⟩ := stored.2.1 seven rfl (by decide) rfl
  obtain ⟨e, -, hstore, hreturned, -⟩ :=
    refused.2.2 fun h => absurd (h.2.1 root (by simp)) (by decide)
  refine ⟨hvalue, stored.1, (hfind "a").trans (if_pos (by decide)),
    (hfind "b").trans (if_pos (by decide)), refused.1, ?_, ?_⟩
  · rw [hstore]; rfl
  · rw [hreturned]; rfl

end Reference
end Sigil
