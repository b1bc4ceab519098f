import Mathlib.Data.List.Basic
import Sigil.Diagnostic.Layout

/-! The underline of a region on a line: its marks stand below the cells of the characters from the first
position to the last, and below no other cell. -/

namespace Sigil.Diagnostic

def Row.text (row : Row) : String := String.join (row.map Piece.text)

theorem Row.text_append (row rest : Row) : Row.text (row ++ rest) = row.text ++ rest.text := by
  rw [text, List.map_append, String.join_append]
  rfl

theorem Row.toList_text (row : Row) : row.text.toList = row.flatMap fun p => p.text.toList := by
  rw [text, String.toList_join, List.flatMap_map]

def rowTexts (d : Diagnostic) (source file : String) : List String := (d.rows source file).map Row.text

theorem render_eq_join (d : Diagnostic) (source file : String) :
    d.render source file = String.join ((d.rowTexts source file).map (· ++ "\n")) := by
  rw [rowTexts, List.map_map]
  rfl

def width : List Char → Nat
  | [] => 0
  | c :: cs => cells (some c) + width cs

@[simp] theorem width_nil : width [] = 0 := rfl

@[simp] theorem width_cons (c : Char) (cs : List Char) :
    width (c :: cs) = cells (some c) + width cs := rfl

@[simp] theorem width_append (cs ds : List Char) : width (cs ++ ds) = width cs + width ds := by
  induction cs with
  | nil => simp
  | cons c cs ih => rw [List.cons_append, width_cons, ih, width_cons, Nat.add_assoc]

theorem cells_pos (c : Option Char) : 0 < cells c := by
  cases c with
  | none => exact Nat.one_pos
  | some c =>
    simp only [cells, Unicode.cellWidth]
    split_ifs <;> decide

theorem eq_nil_of_width_eq_zero {cs : List Char} (h : width cs = 0) : cs = [] := by
  cases cs with
  | nil => rfl
  | cons c cs =>
    have hc : 0 < cells (some c) := cells_pos (some c)
    rw [width_cons] at h
    omega

theorem width_take_lt {cs : List Char} {m n : Nat} (h : m < n) (hn : n ≤ cs.length) :
    width (cs.take m) < width (cs.take n) := by
  have hsplit : cs.take n = cs.take m ++ (cs.drop m).take (n - m) := by
    rw [← List.take_add, Nat.add_sub_cancel' (Nat.le_of_lt h)]
  have hbetween : width ((cs.drop m).take (n - m)) ≠ 0 := by
    intro hzero
    have hlength := congrArg List.length (eq_nil_of_width_eq_zero hzero)
    simp only [List.length_take, List.length_drop, List.length_nil] at hlength
    omega
  rw [hsplit, width_append]
  omega

theorem eq_of_width_take_eq {cs : List Char} {m n : Nat} (hm : m ≤ cs.length) (hn : n ≤ cs.length)
    (h : width (cs.take m) = width (cs.take n)) : m = n := by
  rcases Nat.lt_trichotomy m n with hlt | heq | hgt
  · exact absurd h (Nat.ne_of_lt (width_take_lt hlt hn))
  · exact heq
  · exact absurd h (Nat.ne_of_gt (width_take_lt hgt hm))

theorem cells_dropBlankEnd (cs : List Char) (i : Nat) :
    cells (Text.dropBlankEnd cs)[i]? = cells cs[i]? := by
  induction cs generalizing i with
  | nil => rfl
  | cons c cs ih =>
    rw [Text.dropBlankEnd]
    split
    · next hnil =>
      rw [hnil] at ih
      by_cases hc : Unicode.isBlank c = true
      · rw [if_pos hc]
        cases i with
        | zero => exact (if_pos hc).symm
        | succ i => exact ih i
      · rw [if_neg hc]
        cases i with
        | zero => rfl
        | succ i => exact ih i
    · next d ds hcons =>
      rw [hcons] at ih
      cases i with
      | zero => rfl
      | succ i => exact ih i

theorem length_underlineColumn {w : Nat} (hw : 0 < w) (first last middle i : Nat) :
    (Row.text (underlineColumn first last middle w i)).toList.length = w := by
  rw [Row.toList_text]
  unfold underlineColumn
  split_ifs <;> simp [column, drawn, Piece.painted, Piece.plain] <;> omega

theorem underlineColumn_inside {first last i : Nat} (h : first ≤ i ∧ i < last) (middle w : Nat) :
    ∀ c ∈ (Row.text (underlineColumn first last middle w i)).toList, c ≠ ' ' := by
  rw [Row.toList_text]
  unfold underlineColumn
  split_ifs <;> simp [column, drawn, Piece.painted]

theorem underlineColumn_outside {first last middle i : Nat} (hmiddle : first ≤ middle ∧ middle < last)
    (h : ¬(first ≤ i ∧ i < last)) (w : Nat) :
    ∀ c ∈ (Row.text (underlineColumn first last middle w i)).toList, c = ' ' := by
  have hne : i ≠ middle := by
    rintro rfl
    exact h hmiddle
  rw [Row.toList_text, underlineColumn, if_neg hne, if_neg h]
  simp [column, Piece.plain]

def underline (first last middle : Nat) (cs : List Char) (columns : List Nat) : List Char :=
  (Row.text (columns.flatMap fun i => underlineColumn first last middle (cells cs[i]?) i)).toList

theorem underline_append (first last middle : Nat) (cs : List Char) (columns others : List Nat) :
    underline first last middle cs (columns ++ others) =
      underline first last middle cs columns ++ underline first last middle cs others := by
  rw [underline, List.flatMap_append, Row.text_append, String.toList_append]
  rfl

theorem mem_underline {first last middle : Nat} {cs : List Char} {columns : List Nat} {c : Char} :
    c ∈ underline first last middle cs columns ↔
      ∃ i ∈ columns, c ∈ (Row.text (underlineColumn first last middle (cells cs[i]?) i)).toList := by
  simp only [underline, Row.toList_text, List.mem_flatMap]
  grind

theorem length_underline_range {cs : List Char} {n : Nat} (h : n ≤ cs.length) (first last middle : Nat) :
    (underline first last middle cs (List.range n)).length = width (cs.take n) := by
  induction n with
  | zero => rfl
  | succ n ih =>
    have hlast : underline first last middle cs [n] =
        (Row.text (underlineColumn first last middle (cells cs[n]?) n)).toList := by
      rw [underline, List.flatMap_singleton]
    rw [List.range_succ, underline_append, List.length_append, ih (Nat.le_of_succ_le h), hlast,
      length_underlineColumn (cells_pos _), List.take_add_one, width_append, List.getElem?_eq_getElem h]
    rfl

def IsMarked (marks : List Char) (p : Nat) : Prop := ∃ c, marks[p]? = some c ∧ c ≠ ' '

theorem isMarked_append_iff {before drawn behind : List Char} (hbefore : ∀ c ∈ before, c = ' ')
    (hdrawn : ∀ c ∈ drawn, c ≠ ' ') (hbehind : ∀ c ∈ behind, c = ' ') (p : Nat) :
    IsMarked (before ++ (drawn ++ behind)) p ↔
      before.length ≤ p ∧ p < before.length + drawn.length := by
  constructor
  · rintro ⟨c, hc, hmark⟩
    by_cases hp : p < before.length
    · rw [List.getElem?_append_left hp] at hc
      exact absurd (hbefore c (List.mem_of_getElem? hc)) hmark
    rw [List.getElem?_append_right (Nat.not_lt.1 hp)] at hc
    by_cases hq : p - before.length < drawn.length
    · omega
    · rw [List.getElem?_append_right (Nat.not_lt.1 hq)] at hc
      exact absurd (hbehind c (List.mem_of_getElem? hc)) hmark
  · rintro ⟨hp, hq⟩
    have hlt : p - before.length < drawn.length := by omega
    refine ⟨drawn[p - before.length], ?_, hdrawn _ (List.getElem_mem hlt)⟩
    rw [List.getElem?_append_right hp, List.getElem?_append_left hlt, List.getElem?_eq_getElem hlt]

theorem range_add (m n : Nat) : List.range (m + n) = List.range m ++ List.range' m n := by
  rw [List.range_eq_range', List.range_eq_range', ← List.range'_append_1, Nat.zero_add]

theorem isMarked_underline_iff {cs : List Char} {first last middle : Nat}
    (hmiddle : first ≤ middle ∧ middle < last) (hlast : last ≤ cs.length) (p : Nat) :
    IsMarked (underline first last middle cs (List.range (last + 2))) p ↔
      width (cs.take first) ≤ p ∧ p < width (cs.take last) := by
  have hregion : List.range last = List.range first ++ List.range' first (last - first) := by
    rw [← range_add, Nat.add_sub_cancel' (by omega)]
  have hfirst : first ≤ cs.length := by omega
  have hlength := length_underline_range hlast first last middle
  rw [hregion, underline_append, List.length_append, length_underline_range hfirst] at hlength
  rw [range_add, hregion, List.append_assoc, underline_append, underline_append, isMarked_append_iff,
    length_underline_range hfirst, hlength]
  · intro c hc
    obtain ⟨i, hi, hc⟩ := mem_underline.1 hc
    rw [List.mem_range] at hi
    exact underlineColumn_outside hmiddle (by omega) _ c hc
  · intro c hc
    obtain ⟨i, hi, hc⟩ := mem_underline.1 hc
    rw [List.mem_range'_1] at hi
    exact underlineColumn_inside (by omega) _ _ c hc
  · intro c hc
    obtain ⟨i, hi, hc⟩ := mem_underline.1 hc
    rw [List.mem_range'_1] at hi
    exact underlineColumn_outside hmiddle (by omega) _ c hc

end Sigil.Diagnostic
