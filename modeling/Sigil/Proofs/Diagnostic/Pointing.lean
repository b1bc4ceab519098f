import Sigil.Proofs.Diagnostic.Underline
import Sigil.Proofs.Reference.Grammar

/-! Where the rendering of a diagnostic points to. The layout reads the ends of a span as positions of
characters, and the reader of references gives them in bytes. -/

namespace Sigil.Diagnostic

def shownChar (c : Char) : Char := if Unicode.isBlank c then ' ' else c

/-- The rendering of a text of one line points to a region of it: the header gives the column of the first
character of the region, the text is shown, and below it the cells of the region's characters are
marked and no others. -/
structure PointsAt {span : Span} {cs : List Char} (texts : List String) (file : String)
    (cut : span.Cut cs) : Prop where
  header : texts[1]? =
    some ("   ╭─[" ++ file ++ ":1:" ++ toString (cut.before.length + 1) ++ "]")
  line : texts[3]? = some (" 1 │ " ++ String.ofList ((Text.dropBlankEnd cs).map shownChar))
  underline : ∃ marks, texts[4]? = some ("   │ " ++ String.ofList marks) ∧
    ∀ p, IsMarked marks p ↔ width cut.before ≤ p ∧ p < width (cut.before ++ cut.region)

theorem sourceLines_of_oneLine {cs : List Char} (h : ∀ c ∈ cs, isLineBreak c = false) (hne : cs ≠ [])
    (start : Nat) : sourceLines start cs = [⟨start, cs⟩] := by
  induction cs generalizing start with
  | nil => exact absurd rfl hne
  | cons c cs ih =>
    obtain ⟨hc, hcs⟩ := List.forall_mem_cons.1 h
    have hends : ¬endsLine c cs.head? = true := by simp [endsLine, hc]
    rw [sourceLines, if_neg hends]
    cases cs with
    | nil => rfl
    | cons d ds => rw [ih hcs (List.cons_ne_nil d ds)]

theorem text_sourceRow (paint : Nat → Paint) (cs : List Char) (start : Nat) :
    Row.text ((cs.zipIdx start).map fun (c, i) =>
      Piece.painted (paint i) (String.singleton (shownChar c))) = String.ofList (cs.map shownChar) := by
  rw [← String.toList_inj, Row.toList_text]
  induction cs generalizing start with
  | nil => rfl
  | cons c cs ih =>
    have htail := ih (start + 1)
    rw [String.toList_ofList] at htail
    rw [List.zipIdx_cons, List.map_cons, List.flatMap_cons, htail, String.toList_ofList]
    simp [Piece.painted]

def labelMarks (span : Span) (cs : List Char) : List Char :=
  underline span.start span.stop ((span.start + span.stop) / 2) cs (List.range (span.stop + 2))

theorem isMarked_labelMarks_iff {span : Span} {cs : List Char} (hspan : span.start < span.stop)
    (hstop : span.stop ≤ cs.length) (p : Nat) :
    IsMarked (labelMarks span cs) p ↔ width (cs.take span.start) ≤ p ∧ p < width (cs.take span.stop) :=
  isMarked_underline_iff (by omega) hstop p

theorem text_labelRows (cs : List Char) (label : Label) :
    ∃ arrow, (labelRows 1 ⟨0, cs⟩ label 1).map Row.text =
      [" 1 │ " ++ String.ofList ((Text.dropBlankEnd cs).map shownChar),
        "   │ " ++ String.ofList (labelMarks label.span cs), arrow] := by
  have hmargin : Row.text (marginRow 1) = "   │ " := rfl
  have hnumber : Row.text [.plain " ", .painted .frame (toString 1 ++ " │"), .plain " "] = " 1 │ " := rfl
  have hsource := text_sourceRow
    (fun i => if label.span.start ≤ i ∧ i < label.span.stop then .label else .source)
    (Text.dropBlankEnd cs) 0
  simp only [labelRows, Nat.sub_zero, cells_dropBlankEnd, List.map_cons, Row.text_append, hmargin]
  rw [hnumber, labelMarks, underline, String.ofList_toList, ← hsource]
  exact ⟨_, rfl⟩

theorem place_of_oneLine {position : Nat} {cs : List Char} (h : position ≤ cs.length) :
    place position cs.length [⟨0, cs⟩] = "1:" ++ toString (position + 1) := by
  rw [place, if_neg (Nat.not_lt.2 h)]
  rfl

section

variable {d : Diagnostic} {source message : String} (hlabels : d.labels = [⟨d.span, message⟩])
  (hspan : d.span.start < d.span.stop)
include hlabels hspan

theorem rowTexts_of_beyond (h : source.toList.length < d.span.stop - 1) (file : String) :
    d.rowTexts source file = [(headerRow d).text] := by
  simp [rowTexts, rows, bodyRows, hlabels, hspan.ne, h]

variable (hline : ∀ c ∈ source.toList, isLineBreak c = false) (hne : source.toList ≠ [])
include hline hne

theorem rowTexts_of_within (h : d.span.stop - 1 ≤ source.toList.length) (file : String) :
    ∃ row rest, d.rowTexts source file =
      row :: ("   ╭─[" ++ file ++ ":1:" ++ toString (d.span.start + 1) ++ "]") :: "   │" ::
        ((if d.span.stop ≤ source.toList.length then
            labelRows 1 ⟨0, source.toList⟩ ⟨d.span, message⟩ 1
          else [marginRow 1]).map Row.text ++ rest) := by
  have hstart : d.span.start ≤ source.toList.length := by omega
  have hdrawn : ¬(source.toList.isEmpty = true ∨ source.toList.length < d.span.start ∨
      d.span.start ≠ d.span.stop ∧ source.toList.length < d.span.stop - 1) := by
    simp [hne, Nat.not_lt.2 hstart, Nat.not_lt.2 h]
  have hheader : Row.text [.plain (spaces 3), .painted .frame "╭", .painted .frame "─",
      .painted .frame "[", .plain (file ++ ":" ++ ("1:" ++ toString (d.span.start + 1))),
      .painted .frame "]"] = "   ╭─[" ++ file ++ ":1:" ++ toString (d.span.start + 1) ++ "]" := by
    rw [← String.toList_inj]
    simp [Row.toList_text, Piece.plain, Piece.painted, spaces]
  simp only [rowTexts, rows, bodyRows, sourceLines_of_oneLine hline hne, hlabels, List.head?_cons,
    if_neg hdrawn, lineAt, lineAt.go, Nat.zero_le, if_true, place_of_oneLine hstart, Nat.zero_add,
    decide_eq_true_eq, List.map_cons, List.map_append, List.append_assoc, List.cons_append,
    List.nil_append, List.map_nil]
  rw [← hheader]
  exact ⟨_, _, rfl⟩

theorem rowTexts_of_inside (h : d.span.stop ≤ source.toList.length) (file : String) :
    ∃ row rest, d.rowTexts source file =
      row :: ("   ╭─[" ++ file ++ ":1:" ++ toString (d.span.start + 1) ++ "]") :: "   │" ::
        (" 1 │ " ++ String.ofList ((Text.dropBlankEnd source.toList).map shownChar)) ::
        ("   │ " ++ String.ofList (labelMarks d.span source.toList)) :: rest := by
  have hwithin : d.span.stop - 1 ≤ source.toList.length := by omega
  obtain ⟨row, rest, htexts⟩ := rowTexts_of_within hlabels hspan hline hne hwithin file
  obtain ⟨arrow, hrows⟩ := text_labelRows source.toList ⟨d.span, message⟩
  rw [if_pos h, hrows] at htexts
  exact ⟨row, arrow :: rest, htexts⟩

theorem inside_of_line {file : String} (h : (d.rowTexts source file)[3]? =
      some (" 1 │ " ++ String.ofList ((Text.dropBlankEnd source.toList).map shownChar))) :
    d.span.stop ≤ source.toList.length := by
  by_contra hstop
  by_cases hbeyond : source.toList.length < d.span.stop - 1
  · rw [rowTexts_of_beyond hlabels hspan hbeyond] at h
    contradiction
  · -- In the place of the line stands an empty margin.
    have hwithin : d.span.stop - 1 ≤ source.toList.length := Nat.not_lt.1 hbeyond
    obtain ⟨row, rest, htexts⟩ := rowTexts_of_within hlabels hspan hline hne hwithin file
    rw [htexts, if_neg hstop] at h
    have hmargin : "   │ " = " 1 │ " ++ _ := Option.some.inj h
    have hsecond := congrArg (fun text => text.toList[1]?) hmargin
    simp at hsecond

end

theorem interval_ends {a b a' b' : Nat} (hab : a < b) (hab' : a' < b')
    (h : ∀ p, (a ≤ p ∧ p < b) ↔ (a' ≤ p ∧ p < b')) : a = a' ∧ b = b' := by
  have hleft := h a
  have hleft' := h a'
  have hright := h (b - 1)
  have hright' := h (b' - 1)
  omega

theorem pointsAt_iff_positions {d : Diagnostic} {source message : String}
    (hline : ∀ c ∈ source.toList, isLineBreak c = false) (hlabels : d.labels = [⟨d.span, message⟩])
    (cut : d.span.Cut source.toList) (hregion : cut.region ≠ []) (file : String) :
    PointsAt (d.rowTexts source file) file cut ↔
      d.span.start = cut.before.length ∧ d.span.stop = (cut.before ++ cut.region).length := by
  have hspan : d.span.start < d.span.stop := cut.start_lt_stop hregion
  have hend : (cut.before ++ cut.region).length ≤ source.toList.length := cut.length_le
  have hbefore : cut.before.length < (cut.before ++ cut.region).length := by
    rw [List.length_append]
    exact Nat.lt_add_of_pos_right (List.length_pos_iff.2 hregion)
  have hne : source.toList ≠ [] := List.ne_nil_of_length_pos (by omega)
  constructor
  · rintro ⟨-, hshown, marks, hmarks, hmarked⟩
    have hstop : d.span.stop ≤ source.toList.length := inside_of_line hlabels hspan hline hne hshown
    obtain ⟨row, rest, htexts⟩ := rowTexts_of_inside hlabels hspan hline hne hstop file
    rw [htexts] at hmarks
    have hunderline : labelMarks d.span source.toList = marks :=
      String.ofList_injective ((String.append_right_inj _).1 (Option.some.inj hmarks))
    -- The cells that are marked tell where the marks start and stop, and these tell the positions.
    have hends := interval_ends (width_take_lt hspan hstop) (width_take_lt hbefore hend) fun p => by
      rw [← isMarked_labelMarks_iff hspan hstop, hunderline, hmarked, cut.take_before, cut.take_region]
    exact ⟨eq_of_width_take_eq (by omega) (by omega) hends.1, eq_of_width_take_eq hstop hend hends.2⟩
  · rintro ⟨hstart, hstop⟩
    have hinside : d.span.stop ≤ source.toList.length := hstop.trans_le hend
    obtain ⟨row, rest, htexts⟩ := rowTexts_of_inside hlabels hspan hline hne hinside file
    rw [htexts, hstart]
    refine ⟨rfl, rfl, labelMarks d.span source.toList, rfl, ?_⟩
    intro p
    rw [isMarked_labelMarks_iff hspan hinside, hstart, hstop, cut.take_before, cut.take_region]

/-- The offsets of a refusal are bytes, and the rendering takes them for positions of characters. It
points to the region exactly if each character up to its end takes one byte. -/
theorem refusal_pointsAt_iff {source : String} {d : Diagnostic} (h : Reference.parse source = .error d)
    (hline : ∀ c ∈ source.toList, isLineBreak c = false) (hblank : ¬AllBlank source.toList)
    (file : String) :
    d.render source file = String.join ((d.rowTexts source file).map (· ++ "\n")) ∧
      (∃ message, d.labels = [⟨d.span, message⟩]) ∧
      (∃ cut : d.span.Cut source.toList, cut.region ≠ []) ∧
      ∀ cut : d.span.Cut source.toList,
        PointsAt (d.rowTexts source file) file cut ↔ ∀ c ∈ cut.before ++ cut.region, c.utf8Size = 1 := by
  obtain ⟨⟨code, message, hd⟩, refused, hregion⟩ := Reference.cut_of_parse h hblank
  have hlabels : d.labels = [⟨d.span, message⟩] := congrArg Diagnostic.labels hd
  refine ⟨d.render_eq_join source file, ⟨message, hlabels⟩, ⟨refused, hregion⟩, ?_⟩
  intro cut
  have hcut : cut.region ≠ [] := cut.region_ne_nil (refused.start_lt_stop hregion)
  rw [pointsAt_iff_positions hline hlabels cut hcut, cut.positions_iff]

theorem refusal_points_past_wide :
    -- The letter `é` takes two bytes, so the refusal of the point behind it is shown below the `b`.
    ∃ d, Reference.parse "#é.b" = .error d ∧
      (d.rowTexts "#é.b" "<expr>")[1]? = some "   ╭─[<expr>:1:4]" ∧
      (d.rowTexts "#é.b" "<expr>")[4]? = some "   │    ┬  " ∧
      ∃ cut : d.span.Cut "#é.b".toList, cut.before = ['#', 'é'] ∧ cut.region = ['.'] ∧
        ¬PointsAt (d.rowTexts "#é.b" "<expr>") "<expr>" cut := by
  have htokens : Token.tokenize "#é.b" = [⟨.hash, ⟨0, 1⟩⟩, ⟨.ident "é", ⟨1, 3⟩⟩,
      ⟨.unknown '.', ⟨3, 4⟩⟩, ⟨.ident "b", ⟨4, 5⟩⟩, ⟨.eof, ⟨5, 5⟩⟩] := by decide +kernel
  refine ⟨_, by rw [Reference.parse, htokens]; rfl, by decide +kernel, by decide +kernel,
    ⟨['#', 'é'], ['.'], ['b'], by decide, by decide⟩, rfl, rfl, ?_⟩
  intro h
  exact absurd h.header (by decide +kernel)

theorem refusal_points_before_wide :
    ∃ d, Reference.parse "#a.é" = .error d ∧
      ∃ cut : d.span.Cut "#a.é".toList, cut.before = ['#', 'a'] ∧ cut.region = ['.'] ∧
        PointsAt (d.rowTexts "#a.é" "<expr>") "<expr>" cut := by
  have htokens : Token.tokenize "#a.é" = [⟨.hash, ⟨0, 1⟩⟩, ⟨.ident "a", ⟨1, 2⟩⟩,
      ⟨.unknown '.', ⟨2, 3⟩⟩, ⟨.ident "é", ⟨3, 5⟩⟩, ⟨.eof, ⟨5, 5⟩⟩] := by decide +kernel
  have h : Reference.parse "#a.é" = .error (Reference.syntaxError ⟨2, 3⟩ .trailingInput
      "expected end of input after the variable name") := by
    rw [Reference.parse, htokens]
    rfl
  have hline : ∀ c ∈ "#a.é".toList, isLineBreak c = false := by simp [isLineBreak]
  have hbytes : ∀ c ∈ ['#', 'a'] ++ ['.'], c.utf8Size = 1 := by simp [Char.utf8Size]
  have hpoints := (refusal_pointsAt_iff h hline (by decide +kernel) "<expr>").2.2.2
    ⟨['#', 'a'], ['.'], ['é'], by decide, by decide⟩
  exact ⟨_, h, _, rfl, rfl, hpoints.2 hbytes⟩

end Sigil.Diagnostic
