import Sigil.Unicode.ClusterPart

/-!
The clusters of a text: the runs of characters that a reader takes for one, by the rules of Unicode
17 for extended grapheme clusters. The clusters of a text are its characters in order, and none of
them is empty.
-/

namespace Sigil.Unicode

inductive Bond where
  | none
  | begun
  | complete
  deriving DecidableEq, Repr

structure ClusterContext where
  last : ClusterPart
  oddRegionals : Bool
  pictograph : Bond
  conjunct : Bond

namespace ClusterContext

def start : ClusterContext := ⟨.control, false, .none, .none⟩

def afterPictograph (b : Bond) : ClusterPart → Bond
  | .pictograph => .begun
  | .extend | .linker | .nonJoiner => if b = .begun then .begun else .none
  | .joiner => if b = .begun then .complete else .none
  | _ => .none

def afterConjunct (b : Bond) : ClusterPart → Bond
  | .consonant => .begun
  | .extend | .joiner => b
  | .linker => if b = .none then .none else .complete
  | _ => .none

def after (s : ClusterContext) (p : ClusterPart) : ClusterContext where
  last := p
  oddRegionals := p = .regional ∧ ¬s.oddRegionals
  pictograph := afterPictograph s.pictograph p
  conjunct := afterConjunct s.conjunct p

def continuesSyllable (last : ClusterPart) : ClusterPart → Bool
  | .leading | .openSyllable | .closedSyllable => last = .leading
  | .vowel => last = .leading ∨ last = .vowel ∨ last = .openSyllable
  | .trailing =>
    last = .vowel ∨ last = .openSyllable ∨ last = .trailing ∨ last = .closedSyllable
  | _ => false

def continues (s : ClusterContext) (p : ClusterPart) : Bool :=
  if s.last.isControl ∨ p.isControl then s.last = .carriageReturn ∧ p = .lineFeed
  else if p.isAttached ∨ s.last = .prepended then true
  else
    -- neither is attached to the other, so only a sequence that is still open holds them together
    match p with
    | .consonant => s.conjunct = .complete
    | .pictograph => s.pictograph = .complete
    | .regional => s.oddRegionals
    | p => continuesSyllable s.last p

def split (s : ClusterContext) : List Char → List Char × List (List Char)
  | [] => ([], [])
  | c :: cs =>
    let p := ClusterPart.ofChar c
    let r := (s.after p).split cs
    if s.continues p then (c :: r.1, r.2) else ([], (c :: r.1) :: r.2)

end ClusterContext

def clusters (cs : List Char) : List (List Char) := (ClusterContext.start.split cs).2

end Sigil.Unicode
