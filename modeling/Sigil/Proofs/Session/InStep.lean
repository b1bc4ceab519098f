import Mathlib.Data.Set.Basic
import Sigil.Node
import Sigil.Proofs.Reference.Code

/-! Two runs in step. Two namespaces are in step on some names if, asked for one of them in stores that are
related, they answer the same and leave related stores. Then so are evaluations, places and assignments of
references to these names, and compiled code that pushes no other. -/

namespace Sigil

variable {σ σ' ω ω' α β : Type}

/-- From related worlds both return the same and leave related worlds. -/
def InStep (S : σ → σ' → Prop) (f : σ → α × σ) (g : σ' → α × σ') : Prop :=
  ∀ s s', S s s' → (f s).1 = (g s').1 ∧ S (f s).2 (g s').2

theorem InStep.cases {S : σ → σ' → Prop} {f : σ → α × σ} {g : σ' → α × σ'} (h : InStep S f g) {s : σ}
    {s' : σ'} (hs : S s s') : ∃ a t t', f s = (a, t) ∧ g s' = (a, t') ∧ S t t' := by
  obtain ⟨hanswer, hworlds⟩ := h s s' hs
  exact ⟨(f s).1, (f s).2, (g s').2, rfl, Prod.ext hanswer.symm rfl, hworlds⟩

inductive Assignment.InStep (S : σ → σ' → Prop) : Assignment σ → Assignment σ' → Prop
  | settled (r : Except EvalError TypedValue) {s : σ} {s' : σ'} (related : S s s') :
    InStep S (.settled r s) (.settled r s')
  | awaiting {s : σ} {s' : σ'} {finish : Except EvalError TypedValue → Attempt σ TypedValue}
    {finish' : Except EvalError TypedValue → Attempt σ' TypedValue} (related : S s s')
    (finishes : ∀ produced, Sigil.InStep S (finish produced) (finish' produced)) :
    InStep S (.awaiting s finish) (.awaiting s' finish')

structure Namespace.InStep (names : Set String) (S : σ → σ' → Prop) (ns : Namespace σ)
    (ns' : Namespace σ') : Prop where
  lookup : ∀ name ∈ names, Sigil.InStep S (ns.lookup name) (ns'.lookup name)
  set : ∀ name ∈ names, ∀ v, Sigil.InStep S (ns.set name v) (ns'.set name v)
  assign : ∀ name ∈ names, ∀ s s', S s s' →
    Assignment.InStep S (ns.assign name s) (ns'.assign name s')

structure Part.InStep (W : ω → ω' → Prop) (S : σ → σ' → Prop) (part : Part ω σ) (part' : Part ω' σ') :
    Prop where
  get : ∀ w w', W w w' → S (part.get w) (part'.get w')
  put : ∀ w w' s s', W w w' → S s s' → W (part.put s w) (part'.put s' w')

/-- What may be referred to: some names, and the context objects or not. -/
structure Reach where
  names : Set String
  context : Bool

structure State.Agree (m : Reach) (st st' : State) : Prop where
  config : st.config = st'.config
  context : m.context = true → st = st'

def Reference.Within (m : Reach) (r : Reference) : Prop :=
  match r.name with
  | .named text _ => text ∈ m.names
  | _ => m.context = true

structure Program.Within (m : Reach) (p : Program) : Prop where
  names : ∀ text, .push text ∈ p.code → text ∈ m.names
  context : m.context = false → .load p.config.contextSlot ∉ p.code

structure HostNode.Within (m : Reach) (h : HostNode) : Prop where
  names : ∀ text, .push text ∈ h.code → text ∈ m.names
  context : m.context = true

def Node.Within (m : Reach) : Node → Prop
  | .reference r => r.Within m
  | .host h => h.Within m

def Place.Within (m : Reach) : Place → Prop
  | .context _ => True
  | .variable name _ => name ∈ m.names

variable {S : σ → σ' → Prop} {W : ω → ω' → Prop} {m : Reach} {ns : Namespace σ} {ns' : Namespace σ'}

theorem Part.InStep.lift {part : Part ω σ} {part' : Part ω' σ'} (h : Part.InStep W S part part')
    {f : Attempt σ α} {g : Attempt σ' α} (hfg : Sigil.InStep S f g) :
    Sigil.InStep W (part.lift f) (part'.lift g) := by
  intro w w' hw
  obtain ⟨hanswer, hstore⟩ := hfg _ _ (h.get w w' hw)
  exact ⟨hanswer, h.put _ _ _ _ hw hstore⟩

theorem Namespace.InStep.assignIn (h : ns.InStep m.names S ns') {name : String} (hname : name ∈ m.names)
    {part : Part ω σ} {part' : Part ω' σ'} (hpart : Part.InStep W S part part')
    {right : Attempt ω TypedValue} {right' : Attempt ω' TypedValue}
    (hright : Sigil.InStep W right right') :
    Sigil.InStep W (ns.assignIn part name right) (ns'.assignIn part' name right') := by
  intro w w' hw
  have hassign := h.assign name hname _ _ (hpart.get w w' hw)
  unfold Namespace.assignIn
  generalize ns.assign name (part.get w) = a at hassign
  generalize ns'.assign name (part'.get w') = a' at hassign
  cases hassign with
  | settled r related => exact ⟨rfl, hpart.put _ _ _ _ hw related⟩
  | awaiting related finishes =>
    obtain ⟨hproduced, hinside⟩ := hright _ _ (hpart.put _ _ _ _ hw related)
    simp only [hproduced]
    exact hpart.lift (finishes _) _ _ hinside

theorem State.Agree.lookup {st st' : State} (h : State.Agree m st st') (hns : ns.InStep m.names S ns')
    {name : String} (hname : name ∈ m.names) :
    Sigil.InStep S (st.lookup ns name) (st'.lookup ns' name) := by
  intro s s' hs
  obtain ⟨a, t, t', hone, hother, hstore⟩ := (hns.lookup name hname).cases hs
  simp only [State.lookup, h.config, hone, hother]
  rcases a with e | _ | v
  · exact ⟨rfl, hstore⟩
  · cases st'.config.unbound <;> exact ⟨rfl, hstore⟩
  · exact ⟨rfl, hstore⟩

namespace Reference

variable {r : Reference} {st st' : State}

theorem Within.evaluate (h : r.Within m) (hns : ns.InStep m.names S ns') (hst : State.Agree m st st')
    {s : σ} {s' : σ'} (hs : S s s') :
    let one := r.evaluate ns st s
    let other := r.evaluate ns' st' s'
    one.outcome = other.outcome ∧ one.reference = other.reference ∧ S one.store other.store := by
  cases hname : r.name with
  | named text free =>
    simp only [Within, hname] at h
    obtain ⟨a, t, t', hone, hother, hstore⟩ := (hst.lookup hns h).cases hs
    simp only [evaluate_named hname, hone, hother]
    cases a <;> exact ⟨rfl, rfl, hstore⟩
  | this =>
    simp only [Within, hname] at h
    simp only [Reference.evaluate, hname, hst.context h]
    cases st'.isNested <;> exact ⟨rfl, rfl, hs⟩
  | root =>
    simp only [Within, hname] at h
    simp only [Reference.evaluate, hname, hst.context h]
    exact ⟨trivial, trivial, hs⟩

theorem Within.place (h : r.Within m) (hns : ns.InStep m.names S ns') (hst : State.Agree m st st') :
    Sigil.InStep S (r.place ns st) (r.place ns' st') := by
  intro s s' hs
  cases hname : r.name with
  | named text free =>
    simp only [Within, hname] at h
    obtain ⟨a, t, t', hone, hother, hstore⟩ := (hst.lookup hns h).cases hs
    simp only [Reference.place, hname, hone, hother]
    cases a <;> exact ⟨rfl, hstore⟩
  | _ =>
    simp only [Within, hname] at h
    simp only [Reference.place, hname, hst.context h]
    exact ⟨trivial, hs⟩

theorem Within.within_place (h : r.Within m) {s s' : σ} {p : Place}
    (hp : r.place ns st s = (.ok p, s')) : p.Within m := by
  cases hname : r.name with
  | named text free =>
    simp only [Within, hname] at h
    simp only [Reference.place, hname] at hp
    split at hp
    · cases hp
      exact h
    · cases hp
  | _ =>
    simp only [Reference.place, hname] at hp
    cases hp
    trivial

theorem Within.assign (h : r.Within m) (hns : ns.InStep m.names S ns') {part : Part ω σ}
    {part' : Part ω' σ'} (hpart : Part.InStep W S part part') {right : Attempt ω TypedValue}
    {right' : Attempt ω' TypedValue} (hright : Sigil.InStep W right right') :
    Sigil.InStep W (r.assign ns part right) (r.assign ns' part' right') := by
  cases hname : r.name with
  | named text free =>
    simp only [Within, hname] at h
    rw [assign_named hname, assign_named hname]
    exact hns.assignIn h hpart hright
  | _ =>
    simp only [Reference.assign, hname]
    exact fun w w' hw => ⟨rfl, hw⟩

end Reference

theorem Place.Within.write {p : Place} (h : p.Within m) (hns : ns.InStep m.names S ns')
    (v : Option Value) : Sigil.InStep S (p.write ns v) (p.write ns' v) := by
  cases p with
  | context snapshot => exact fun s s' hs => ⟨rfl, hs⟩
  | «variable» name snapshot => exact hns.set name h v

namespace Node

variable {n : Node} {st st' : State}

theorem Within.evaluate (h : n.Within m) (hns : ns.InStep m.names S ns') (hst : State.Agree m st st')
    {s : σ} {s' : σ'} (hs : S s s') :
    let one := n.evaluate ns st s
    let other := n.evaluate ns' st' s'
    one.1 = other.1 ∧ one.2.2 = other.2.2 ∧ S one.2.1 other.2.1 := by
  cases n with
  | host host => exact ⟨rfl, rfl, hs⟩
  | reference r =>
    obtain ⟨houtcome, hreference, hstore⟩ := Reference.Within.evaluate h hns hst hs
    exact ⟨houtcome, congrArg Node.reference hreference, hstore⟩

theorem Within.within_evaluate (h : n.Within m) (s : σ) : (n.evaluate ns st s).2.2.Within m := by
  cases n with
  | host host => exact h
  | reference r =>
    have hname : (r.evaluate ns st s).reference.name = r.name :=
      congrArg Identifier.name (r.evaluate_ident ns st s)
    simpa only [Node.evaluate, Node.Within, Reference.Within, hname] using h

theorem Within.place (h : n.Within m) (hns : ns.InStep m.names S ns') (hst : State.Agree m st st') :
    Sigil.InStep S (n.place ns st) (n.place ns' st') := by
  cases n with
  | host host => exact fun s s' hs => ⟨rfl, hs⟩
  | reference r => exact Reference.Within.place h hns hst

theorem Within.within_place (h : n.Within m) {s s' : σ} {p : Place}
    (hp : n.place ns st s = (.ok p, s')) : p.Within m := by
  cases n with
  | host host =>
    cases hp
    trivial
  | reference r => exact Reference.Within.within_place h hp

theorem Within.assign (h : n.Within m) (hns : ns.InStep m.names S ns') {part : Part ω σ}
    {part' : Part ω' σ'} (hpart : Part.InStep W S part part') {right : Attempt ω TypedValue}
    {right' : Attempt ω' TypedValue} (hright : Sigil.InStep W right right') :
    Sigil.InStep W (n.assign ns part right) (n.assign ns' part' right') := by
  cases n with
  | host host => exact fun w w' hw => ⟨rfl, hw⟩
  | reference r => exact Reference.Within.assign h hns hpart hright

end Node

namespace Instruction

variable {config : Config} {context context' : TypedValue}

def NamesIn (names : Set String) (stack : List Operand) : Prop :=
  ∀ text, .name text ∈ stack → text ∈ names

theorem NamesIn.of_cons {names : Set String} {operand : Operand} {stack : List Operand}
    (h : NamesIn names (operand :: stack)) : NamesIn names stack :=
  fun text htext => h text (List.mem_cons_of_mem _ htext)

theorem NamesIn.cons_value {names : Set String} {stack : List Operand} (h : NamesIn names stack)
    (v : Option Value) : NamesIn names (.value v :: stack) := by
  intro text htext
  rcases List.mem_cons.1 htext with heq | hmem
  · contradiction
  · exact h text hmem

theorem execute_inStep (hns : ns.InStep m.names S ns') {i : Instruction}
    (names : ∀ text, i = .push text → text ∈ m.names)
    (hcontext : i = .load config.contextSlot → context = context') {stack : List Operand}
    (hstack : NamesIn m.names stack) {s : σ} {s' : σ'} (hs : S s s') :
    let one := execute config ns context i stack s
    let other := execute config ns' context' i stack s'
    one.1 = other.1 ∧ S one.2 other.2 ∧ ∀ stack', one.1 = .ok stack' → NamesIn m.names stack' := by
  cases i with
  | load slot =>
    simp only [execute]
    split
    · next hslot =>
      obtain rfl : context = context' := hcontext (by rw [hslot])
      exact ⟨rfl, hs, fun _ h => Except.ok.inj h ▸ hstack.cons_value _⟩
    · split
      · refine ⟨rfl, hs, fun _ h => Except.ok.inj h ▸ fun text htext => ?_⟩
        rcases List.mem_cons.1 htext with heq | hmem
        · contradiction
        · exact hstack text hmem
      · exact ⟨rfl, hs, fun _ h => by contradiction⟩
  | push text =>
    refine ⟨rfl, hs, fun _ h => Except.ok.inj h ▸ fun text' htext => ?_⟩
    rcases List.mem_cons.1 htext with heq | hmem
    · cases heq
      exact names text rfl
    · exact hstack text' hmem
  | lookup =>
    simp only [execute]
    split
    · next text rest =>
      have hrest : NamesIn m.names rest := hstack.of_cons.of_cons
      obtain ⟨a, t, t', hone, hother, hstore⟩ :=
        (hns.lookup text (hstack text List.mem_cons_self)).cases hs
      simp only [hone, hother]
      rcases a with e | _ | v
      · exact ⟨rfl, hstore, fun _ h => by contradiction⟩
      · cases config.unbound with
        | lenient => exact ⟨rfl, hstore, fun _ h => Except.ok.inj h ▸ hrest.cons_value _⟩
        | strict => exact ⟨rfl, hstore, fun _ h => by contradiction⟩
      · exact ⟨rfl, hstore, fun _ h => Except.ok.inj h ▸ hrest.cons_value _⟩
    · exact ⟨rfl, hs, fun _ h => by contradiction⟩
  | cast type =>
    simp only [execute]
    split
    · next v rest =>
      cases checkCast type v with
      | error e => exact ⟨rfl, hs, fun _ h => by contradiction⟩
      | ok => exact ⟨rfl, hs, fun _ h => Except.ok.inj h ▸ hstack⟩
    · exact ⟨rfl, hs, fun _ h => by contradiction⟩

theorem executeAll_inStep (hns : ns.InStep m.names S ns') {code : List Instruction}
    (names : ∀ text, .push text ∈ code → text ∈ m.names)
    (hcontext : .load config.contextSlot ∈ code → context = context') {stack : List Operand}
    (hstack : NamesIn m.names stack) :
    Sigil.InStep S (executeAll config ns context code stack)
      (executeAll config ns' context' code stack) := by
  induction code generalizing stack with
  | nil => exact fun s s' hs => ⟨rfl, hs⟩
  | cons i code ih =>
    intro s s' hs
    obtain ⟨houtcome, hstore, hnames⟩ := execute_inStep hns
      (fun text h => names text (h ▸ List.mem_cons_self))
      (fun h : i = .load config.contextSlot => hcontext (h ▸ List.mem_cons_self)) hstack hs
    simp only [executeAll]
    revert houtcome hstore hnames
    rcases execute config ns context i stack s with ⟨outcome, t⟩
    rcases execute config ns' context' i stack s' with ⟨outcome', t'⟩
    rintro rfl hstore hnames
    cases outcome with
    | error e => exact ⟨rfl, hstore⟩
    | ok stack' =>
      exact ih (fun text h => names text (List.mem_cons_of_mem _ h))
        (fun h => hcontext (List.mem_cons_of_mem _ h)) (hnames stack' rfl) _ _ hstore

end Instruction

theorem Program.Within.run {p : Program} (h : p.Within m) (hns : ns.InStep m.names S ns')
    {context context' : TypedValue} (hcontext : m.context = true → context = context') :
    Sigil.InStep S (p.run ns context) (p.run ns' context') := by
  intro s s' hs
  simp only [Program.run]
  cases checkSlots p.config with
  | error e => exact ⟨rfl, hs⟩
  | ok =>
    have hload (hmem : .load p.config.contextSlot ∈ p.code) : context = context' := by
      refine hcontext (Bool.eq_true_of_not_eq_false fun hfalse => ?_)
      exact h.context hfalse hmem
    have hempty : Instruction.NamesIn m.names [] := fun _ hmem => absurd hmem List.not_mem_nil
    obtain ⟨outcome, t, t', hone, hother, hstore⟩ :=
      (Instruction.executeAll_inStep hns h.names hload hempty).cases hs
    simp only [hone, hother]
    cases outcome <;> exact ⟨rfl, hstore⟩

namespace VariableName

theorem push_mem_code {context space : Slot} {name : VariableName} {text : String}
    (h : .push text ∈ name.code context space) : ∃ free, name = .named text free := by
  cases name with
  | named text' free =>
    simp only [code, List.mem_cons, Instruction.push.injEq, reduceCtorEq, List.not_mem_nil, false_or,
      or_false] at h
    subst h
    exact ⟨free, rfl⟩
  | _ => simp [code] at h

theorem load_mem_code_named {context space : Slot} {text : String} {free : IsFreeName text} {slot : Slot}
    (h : .load slot ∈ (named text free).code context space) : slot = space := by
  simpa [code] using h

end VariableName

theorem Descriptor.eq_cast_of_mem_castCode {d : Descriptor} {i : Instruction} (h : i ∈ d.castCode) :
    i = .cast d := by
  unfold castCode at h
  split at h
  · contradiction
  · exact List.mem_singleton.1 h

namespace HostNode

theorem code_popTypes (n : Nat) (em : Emission) : (popTypes n em).code = em.code := by
  induction n generalizing em with
  | zero => rfl
  | succ n ih => exact ih em.popType

theorem code_foldl_pushType (leaves : List Descriptor) (em : Emission) :
    (leaves.foldl Emission.pushType em).code = em.code := by
  induction leaves generalizing em with
  | nil => rfl
  | cons d leaves ih => exact ih (em.pushType d)

theorem mem_code_emitInstruction {em : Emission} {i j : Instruction}
    (h : j ∈ (emitInstruction em i).code) : j ∈ em.code ∨ j = i := by
  cases i with
  | cast type =>
    simp only [emitInstruction, Emission.emitCast] at h
    split at h
    · exact .inl h
    · simpa [Emission.emit] using h
  | _ => simpa [emitInstruction, Emission.emit] using h

theorem mem_code_foldl_emitInstruction {code : List Instruction} {em : Emission} {j : Instruction}
    (h : j ∈ (code.foldl emitInstruction em).code) : j ∈ em.code ∨ j ∈ code := by
  induction code generalizing em with
  | nil => exact .inl h
  | cons i code ih =>
    rcases ih h with hbefore | hcode
    · exact (mem_code_emitInstruction hbefore).imp_right fun heq : j = i => heq ▸ List.mem_cons_self
    · exact .inr (List.mem_cons_of_mem _ hcode)

theorem mem_code_of_compile {h : HostNode} {config : Config} {p : Program}
    (hp : Program.compile h.codeSource config = .ok p) {i : Instruction} (hi : i ∈ p.code) :
    i ∈ h.code := by
  have hcode : p.code = (h.code.foldl emitInstruction (.start config)).code := by
    unfold Program.compile at hp
    split at hp
    · contradiction
    · split at hp
      · simp only [codeSource, generate] at hp
        rw [Program.code_ofEmission hp, code_popTypes, code_foldl_pushType]
      · contradiction
  rw [hcode] at hi
  exact (mem_code_foldl_emitInstruction hi).resolve_left List.not_mem_nil

end HostNode

theorem Node.Within.compile {m : Reach} {n : Node} (h : n.Within m) {config : Config} {p : Program}
    (hp : Program.compile n.codeSource config = .ok p) : p.Within m := by
  cases n with
  | host host =>
    refine ⟨fun text htext => h.names text (HostNode.mem_code_of_compile hp htext), fun hfalse => ?_⟩
    rw [h.context] at hfalse
    contradiction
  | reference r =>
    obtain ⟨distinct, exit, -, rfl⟩ := Reference.compile_eq_ok_iff.1 hp
    constructor
    · intro text htext
      rcases List.mem_append.1 htext with hname | hcast
      · obtain ⟨free, hr⟩ := VariableName.push_mem_code hname
        simpa only [Node.Within, Reference.Within, hr] using h
      · exact absurd (Descriptor.eq_cast_of_mem_castCode hcast) Instruction.noConfusion
    · intro hfalse hload
      rcases List.mem_append.1 hload with hname | hcast
      · cases hr : r.name with
        | named text free =>
          rw [hr] at hname
          exact distinct (VariableName.load_mem_code_named hname)
        | _ =>
          simp only [Node.Within, Reference.Within, hr, hfalse] at h
          contradiction
      · exact absurd (Descriptor.eq_cast_of_mem_castCode hcast) Instruction.noConfusion

end Sigil
