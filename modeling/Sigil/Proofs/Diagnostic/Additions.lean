import Sigil.Diagnostic.Basic

/-! What additions make of a diagnostic. Labels and notes stand in the order in which they came, and the latest
code counts. The help is the latest that was given by name, wherever that was, or else the first suggestion
that a code brought. So the order counts only among additions of one kind. -/

namespace Sigil.Diagnostic

namespace Addition

inductive Kind where
  | code
  | label
  | note
  | help
  deriving DecidableEq

def kind : Addition → Kind
  | .code _ => .code
  | .label _ => .label
  | .note _ => .note
  | .help _ => .help

def code? : Addition → Option ErrorCode
  | .code c => some c
  | _ => none

def label? : Addition → Option Label
  | .label l => some l
  | _ => none

def note? : Addition → Option String
  | .note n => some n
  | _ => none

def help? : Addition → Option String
  | .help h => some h
  | _ => none

def SameByKind (as bs : List Addition) : Prop :=
  ∀ kind : Kind, as.filter (·.kind = kind) = bs.filter (·.kind = kind)

theorem SameByKind.filterMap_eq {as bs : List Addition} (h : SameByKind as bs) {α : Type}
    {read? : Addition → Option α} (kind : Kind) (hread : ∀ a, a.kind ≠ kind → read? a = none) :
    as.filterMap read? = bs.filterMap read? := by
  have hkind (cs : List Addition) :
      (cs.filter (·.kind = kind)).filterMap read? = cs.filterMap read? := by
    rw [List.filterMap_filter]
    congr 1
    funext a
    by_cases ha : a.kind = kind
    · simp [ha]
    · simp [ha, hread a ha]
  rw [← hkind as, h kind, hkind bs]

end Addition

open Addition

def addAll (d : Diagnostic) (as : List Addition) : Diagnostic := as.foldl add d

theorem addAll_eq (d : Diagnostic) (as : List Addition) :
    d.addAll as = { d with
      code := (as.filterMap code?).getLast?.or d.code
      labels := d.labels ++ as.filterMap label?
      notes := d.notes ++ as.filterMap note?
      help := ((as.filterMap help?).getLast?.or d.help).or
        ((as.filterMap code?).findSome? ErrorCode.suggestion?) } := by
  induction as generalizing d with
  | nil => simp [addAll]
  | cons a as ih =>
    rw [addAll, List.foldl_cons, ← addAll, ih]
    simp only [List.filterMap_cons]
    cases a with
    | code c =>
      have hfirst (cs : List ErrorCode) : (c :: cs).findSome? ErrorCode.suggestion? =
          c.suggestion?.or (cs.findSome? ErrorCode.suggestion?) := by
        rw [List.findSome?_cons]
        cases c.suggestion? <;> rfl
      simp only [add, withCode, code?, label?, note?, help?, List.getLast?_cons, Option.or_some,
        Option.some_or, hfirst, Option.orElse_eq_orElse, Option.orElse_eq_or, Option.or_assoc]
    | label l =>
      simp only [add, withLabel, code?, label?, note?, help?, List.append_assoc, List.singleton_append]
    | note n =>
      simp only [add, withNote, code?, label?, note?, help?, List.append_assoc, List.singleton_append]
    | help h =>
      simp only [add, withHelp, code?, label?, note?, help?, List.getLast?_cons, Option.or_some,
        Option.some_or]

theorem addAll_of_sameByKind {as bs : List Addition} (h : SameByKind as bs) (d : Diagnostic) :
    d.addAll as = d.addAll bs := by
  have hcodes : as.filterMap code? = bs.filterMap code? :=
    h.filterMap_eq .code fun a ha => by cases a <;> simp [kind, code?] at ha ⊢
  have hlabels : as.filterMap label? = bs.filterMap label? :=
    h.filterMap_eq .label fun a ha => by cases a <;> simp [kind, label?] at ha ⊢
  have hnotes : as.filterMap note? = bs.filterMap note? :=
    h.filterMap_eq .note fun a ha => by cases a <;> simp [kind, note?] at ha ⊢
  have hhelps : as.filterMap help? = bs.filterMap help? :=
    h.filterMap_eq .help fun a ha => by cases a <;> simp [kind, help?] at ha ⊢
  rw [addAll_eq, addAll_eq, hcodes, hlabels, hnotes, hhelps]

/-- What a diagnostic becomes by additions, which depends on the order of the additions of each kind only.
Help given by name goes before a suggestion, also where a code comes behind it. -/
theorem additions_in_any_order (phase : Phase) (span : Span) (message : String) (as : List Addition) :
    (error phase span message).addAll as =
        { severity := .error
          phase := phase
          code := (as.filterMap code?).getLast?
          message := message
          span := span
          labels := as.filterMap label?
          notes := as.filterMap note?
          help := (as.filterMap help?).getLast?.or
            ((as.filterMap code?).findSome? ErrorCode.suggestion?) } ∧
      ∀ bs, SameByKind as bs →
        (error phase span message).addAll bs = (error phase span message).addAll as := by
  refine ⟨?_, fun bs h => (addAll_of_sameByKind h _).symm⟩
  rw [addAll_eq]
  simp only [error, Option.or_none, List.nil_append]

theorem additions_in_any_order_help_first :
    let span : Span := ⟨0, 4⟩
    let as : List Addition :=
      [.help "read the guide", .code .illegalAccess, .note "once", .code .classCast, .label ⟨span, "here"⟩]
    let bs : List Addition :=
      [.label ⟨span, "here"⟩, .code .illegalAccess, .help "read the guide", .code .classCast, .note "once"]
    SameByKind as bs ∧
      (error .compilation span "refused").addAll bs = (error .compilation span "refused").addAll as ∧
      ((error .compilation span "refused").addAll as).help = some "read the guide" ∧
      ((error .compilation span "refused").addAll as).code = some .classCast ∧
      ((error .compilation span "refused").addAll as.tail).help =
        some "the binding changed type since compilation; discard the compiled unit" := by
  intro span as bs
  have hsame : SameByKind as bs := by
    rintro ⟨⟩ <;> rfl
  obtain ⟨hadded, hreordered⟩ := additions_in_any_order .compilation span "refused" as
  refine ⟨hsame, hreordered bs hsame, by rw [hadded]; rfl, by rw [hadded]; rfl, ?_⟩
  rw [(additions_in_any_order .compilation span "refused" as.tail).1]
  rfl

end Sigil.Diagnostic
