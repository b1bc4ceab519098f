import Sigil.Source.Span
import Sigil.Text.Bytes

/-! The characters that a span stands for: its ends count the bytes before and up to the end of a region of
the text. -/

namespace Sigil

/-- A text cut in three at the bytes where a span starts and stops. -/
structure Span.Cut (span : Span) (cs : List Char) where
  before : List Char
  region : List Char
  behind : List Char
  chars_eq : cs = before ++ (region ++ behind)
  span_eq : span = ⟨Text.byteLength before, Text.byteLength (before ++ region)⟩

namespace Span.Cut

variable {span : Span} {cs : List Char} (cut : span.Cut cs)
include cut

theorem take_before : cs.take cut.before.length = cut.before := by
  rw [congrArg (List.take _) cut.chars_eq, List.take_left]

theorem take_region : cs.take (cut.before ++ cut.region).length = cut.before ++ cut.region := by
  rw [congrArg (List.take _) cut.chars_eq, ← List.append_assoc, List.take_left]

theorem length_le : (cut.before ++ cut.region).length ≤ cs.length := by
  have hlength := congrArg List.length cut.chars_eq
  simp only [List.length_append] at hlength ⊢
  omega

theorem start_eq : span.start = Text.byteLength cut.before := congrArg Span.start cut.span_eq

theorem stop_eq : span.stop = Text.byteLength (cut.before ++ cut.region) :=
  congrArg Span.stop cut.span_eq

theorem start_le_stop : span.start ≤ span.stop := by
  rw [cut.start_eq, cut.stop_eq, Text.byteLength_append]
  exact Nat.le_add_right _ _

theorem stop_le : span.stop ≤ Text.byteLength cs := by
  rw [cut.stop_eq, congrArg Text.byteLength cut.chars_eq]
  simp only [Text.byteLength_append]
  omega

theorem start_lt_stop (h : cut.region ≠ []) : span.start < span.stop := by
  have hregion : 0 < cut.region.length := List.length_pos_iff.2 h
  have hbytes : cut.region.length ≤ Text.byteLength cut.region := Text.length_le_byteLength cut.region
  rw [cut.start_eq, cut.stop_eq, Text.byteLength_append]
  omega

theorem region_ne_nil (h : span.start < span.stop) : cut.region ≠ [] := by
  intro hnil
  have hstop := cut.stop_eq
  rw [hnil, List.append_nil, ← cut.start_eq] at hstop
  omega

theorem positions_iff :
    (span.start = cut.before.length ∧ span.stop = (cut.before ++ cut.region).length) ↔
      ∀ c ∈ cut.before ++ cut.region, c.utf8Size = 1 := by
  rw [← Text.byteLength_eq_length_iff, cut.start_eq, cut.stop_eq]
  have hbefore : cut.before.length ≤ Text.byteLength cut.before := Text.length_le_byteLength cut.before
  have hregion : cut.region.length ≤ Text.byteLength cut.region := Text.length_le_byteLength cut.region
  simp only [List.length_append, Text.byteLength_append]
  omega

end Span.Cut
end Sigil
