import Mathlib.Data.List.TakeWhile
import Sigil.Proofs.Source.Cut
import Sigil.Proofs.Unicode.Disjoint

/-! Lexemes: the characters that a token stands for. Every text is white space throughout, or white space
and a first lexeme that is as long as it can be; scanning reads the lexemes off in turn. -/

namespace Sigil

def AllBlank (cs : List Char) : Prop := ∀ c ∈ cs, Unicode.isBlank c = true

def IsName : List Char → Prop
  | [] => False
  | c :: cs => isNameStart c = true ∧ ∀ d ∈ cs, isNameContinue d = true

instance (cs : List Char) : Decidable (AllBlank cs) :=
  List.decidableBAll (fun c => Unicode.isBlank c = true) cs

instance (cs : List Char) : Decidable (IsName cs) :=
  match cs with
  | [] => isFalse id
  | _ :: cs =>
    haveI := List.decidableBAll (fun d => isNameContinue d = true) cs
    instDecidableAnd

theorem allBlank_nil : AllBlank [] := fun _ h => absurd h List.not_mem_nil

theorem AllBlank.cons {c : Char} {cs : List Char} (hc : Unicode.isBlank c = true) (h : AllBlank cs) :
    AllBlank (c :: cs) := List.forall_mem_cons.2 ⟨hc, h⟩

theorem IsName.ne_nil {cs : List Char} (h : IsName cs) : cs ≠ [] := by
  rintro rfl
  exact h

namespace Token

inductive Lexeme : Kind → List Char → Prop
  | hash : Lexeme .hash ['#']
  | ident {name : List Char} (h : IsName name) : Lexeme (.ident (String.ofList name)) name
  | unknown {c : Char} (hblank : Unicode.isBlank c = false) (hhash : c ≠ '#')
      (hstart : isNameStart c = false) : Lexeme (.unknown c) [c]

theorem Lexeme.ne_nil {kind : Kind} {cs : List Char} (h : Lexeme kind cs) : cs ≠ [] := by
  cases h with
  | hash => simp
  | ident hname => exact hname.ne_nil
  | unknown hblank hhash hstart => simp

/-- Whether a token may end in front of a text: a name goes on for as long as it can. -/
def Kind.EndsBefore : Kind → List Char → Prop
  | .ident _, rest => ∀ c ∈ rest.head?, isNameContinue c = false
  | _, _ => True

inductive Segmented : List Char → Prop
  | blank {cs : List Char} (h : AllBlank cs) : Segmented cs
  | lexeme {kind : Kind} {cs rest : List Char} (bs : List Char) (blank : AllBlank bs)
      (lexeme : Lexeme kind cs) (ends : kind.EndsBefore rest) (tail : Segmented rest) :
      Segmented (bs ++ (cs ++ rest))

theorem Segmented.cons {c : Char} {cs : List Char} (hc : Unicode.isBlank c = true)
    (h : Segmented cs) : Segmented (c :: cs) := by
  cases h with
  | blank h => exact .blank (h.cons hc)
  | lexeme bs blank lexeme ends tail => exact .lexeme (c :: bs) (blank.cons hc) lexeme ends tail

theorem endsBefore_dropWhile (name : String) (cs : List Char) :
    (Kind.ident name).EndsBefore (cs.dropWhile isNameContinue) := by
  intro c hc
  have h := List.head?_dropWhile_not isNameContinue cs
  rwa [Option.mem_def.1 hc] at h

theorem segmented (cs : List Char) : Segmented cs := by
  -- The cases are the steps of the scan, each of which takes one blank or one lexeme.
  fun_induction scan 0 cs with
  | case1 => exact .blank allBlank_nil
  | case2 start c cs hblank ih => exact ih.cons hblank
  | case3 start cs hblank ih => exact .lexeme [] allBlank_nil .hash trivial ih
  | case4 start c cs hblank hhash hstart name stop ih =>
    have hname : IsName name := ⟨hstart, fun _ hd => List.mem_takeWhile_imp hd⟩
    have h := Segmented.lexeme [] allBlank_nil (.ident hname) (endsBefore_dropWhile _ cs) ih
    rwa [List.nil_append, List.cons_append, List.takeWhile_append_dropWhile] at h
  | case5 start c cs hblank hhash hstart ih =>
    have hlexeme : Lexeme (.unknown c) [c] :=
      .unknown (Bool.eq_false_iff.2 hblank) hhash (Bool.eq_false_iff.2 hstart)
    exact .lexeme [] allBlank_nil hlexeme trivial ih

theorem scan_blanks {bs : List Char} (h : AllBlank bs) (start : Nat) (rest : List Char) :
    scan start (bs ++ rest) = scan (start + Text.byteLength bs) rest := by
  induction bs generalizing start with
  | nil => simp
  | cons b bs ih =>
    obtain ⟨hb, hbs⟩ := List.forall_mem_cons.1 h
    rw [List.cons_append, scan_blank hb, ih hbs, Text.byteLength_cons, Nat.add_assoc]

theorem scan_allBlank {cs : List Char} (h : AllBlank cs) (start : Nat) :
    scan start cs = [⟨.eof, ⟨start + Text.byteLength cs, start + Text.byteLength cs⟩⟩] := by
  have hscan := scan_blanks h start []
  rwa [List.append_nil, scan_nil] at hscan

theorem scan_name {name rest : List Char} (h : IsName name)
    (ends : ∀ c ∈ rest.head?, isNameContinue c = false) (start : Nat) :
    scan start (name ++ rest) =
      ⟨.ident (String.ofList name), ⟨start, start + Text.byteLength name⟩⟩ ::
        scan (start + Text.byteLength name) rest := by
  cases name with
  | nil => exact absurd rfl h.ne_nil
  | cons c cs =>
    obtain ⟨hstart, hcs⟩ := h
    -- The scan takes all of `cs`, and by `ends` nothing of the rest.
    have htake : rest.takeWhile isNameContinue = [] := by
      cases rest with
      | nil => rfl
      | cons d ds => simp [ends d rfl]
    have hdrop : rest.dropWhile isNameContinue = rest := by
      cases rest with
      | nil => rfl
      | cons d ds => simp [ends d rfl]
    rw [List.cons_append, scan, if_neg (by simp [isBlank_of_isNameStart hstart]),
      if_neg (ne_hash_of_isNameStart hstart), if_pos hstart, List.takeWhile_append_of_pos hcs,
      List.dropWhile_append_of_pos hcs, htake, hdrop, List.append_nil]

theorem scan_lexeme {kind : Kind} {cs rest : List Char} (h : Lexeme kind cs)
    (ends : kind.EndsBefore rest) (start : Nat) :
    scan start (cs ++ rest) =
      ⟨kind, ⟨start, start + Text.byteLength cs⟩⟩ :: scan (start + Text.byteLength cs) rest := by
  cases h with
  | hash =>
    rw [List.singleton_append, scan, if_neg (by simp), if_pos rfl]
    rfl
  | ident hname => exact scan_name hname ends start
  | unknown hblank hhash hstart =>
    rw [List.singleton_append, scan, if_neg (by simp [hblank]), if_neg hhash,
      if_neg (by simp [hstart])]
    rfl

theorem scan_segment {kind : Kind} {bs cs rest : List Char} (blank : AllBlank bs)
    (lexeme : Lexeme kind cs) (ends : kind.EndsBefore rest) (start : Nat) :
    scan start (bs ++ (cs ++ rest)) =
      ⟨kind, ⟨start + Text.byteLength bs, start + Text.byteLength bs + Text.byteLength cs⟩⟩ ::
        scan (start + Text.byteLength bs + Text.byteLength cs) rest := by
  rw [scan_blanks blank, scan_lexeme lexeme ends]

theorem Lexeme.isBlank_head {kind : Kind} {cs : List Char} (h : Lexeme kind cs) :
    ∀ c ∈ cs.head?, Unicode.isBlank c = false := by
  cases h with
  | hash => simp
  | unknown hblank hhash hstart => simpa using hblank
  | ident hname =>
    cases cs with
    | nil => simp
    | cons c cs => simpa using isBlank_of_isNameStart hname.1

theorem scan_behind (before : List Char) {kind : Kind} {bs cs rest : List Char} (blank : AllBlank bs)
    (lexeme : Lexeme kind cs) (ends : kind.EndsBefore rest) :
    scan (Text.byteLength before) (bs ++ (cs ++ rest)) =
      ⟨kind, ⟨Text.byteLength (before ++ bs), Text.byteLength (before ++ bs ++ cs)⟩⟩ ::
        scan (Text.byteLength (before ++ bs ++ cs)) rest := by
  rw [scan_segment blank lexeme ends]
  simp only [Text.byteLength_append]

theorem Lexeme.unique {kind kind' : Kind} {cs cs' rest rest' : List Char} (h : Lexeme kind cs)
    (ends : kind.EndsBefore rest) (h' : Lexeme kind' cs') (ends' : kind'.EndsBefore rest')
    (heq : cs ++ rest = cs' ++ rest') : kind = kind' ∧ cs = cs' := by
  have hscan : scan 0 (cs ++ rest) = scan 0 (cs' ++ rest') := congrArg (scan 0) heq
  rw [scan_lexeme h ends, scan_lexeme h' ends'] at hscan
  have hhead := (List.cons.inj hscan).1
  have hbytes : 0 + Text.byteLength cs = 0 + Text.byteLength cs' :=
    congrArg (fun t => t.span.stop) hhead
  exact ⟨congrArg Token.kind hhead, Text.eq_of_byteLength_eq heq (by omega)⟩

end Token
end Sigil
