import Sigil.Proofs.Reference.Grammar

/-! References as they are displayed. A display is read back exactly if its text is a name; what was read from
any text is displayed without white space, and reading that gives the same name again. -/

namespace Sigil

namespace VariableName

theorem eq_of_text_eq {a b : VariableName} (h : a.text = b.text) : a = b := by
  have hok : (Except.ok a : Except EvalError VariableName) = .ok b := by
    rw [← ofText_text a, ← ofText_text b, h]
  exact Except.ok.inj hok

theorem display_eq_iff {a b : VariableName} : a.display = b.display ↔ a = b := by
  refine ⟨fun h => eq_of_text_eq ?_, fun h => h ▸ rfl⟩
  simpa [display] using h

end VariableName

namespace Reference

theorem display_eq_iff {r r' : Reference} : r.display = r'.display ↔ r.name = r'.name :=
  VariableName.display_eq_iff

namespace Layout

theorem ReadAs.text_name {l : Layout} {r : Reference} (h : l.ReadAs r) : r.name.text = l.text := by
  by_cases hthis : l.text = "this"
  · rw [h.this hthis, hthis]
    rfl
  · by_cases hroot : l.text = "root"
    · rw [h.root hroot, hroot]
      rfl
    · obtain ⟨free, hname⟩ := h.named hthis hroot
      rw [hname]
      rfl

def compact (name : List Char) (isName : IsName name) : Layout :=
  ⟨[], [], name, [], allBlank_nil, allBlank_nil, isName, allBlank_nil⟩

end Layout

theorem parse_marked {text : String} (isName : IsName text.toList) :
    ∃ r, parse ("#" ++ text) = .ok r ∧ r.name.text = text ∧
      r.span = ⟨0, Text.byteLength ("#" ++ text).toList⟩ := by
  have hchars : ("#" ++ text).toList = (Layout.compact text.toList isName).chars := by
    simp [Layout.chars, Layout.compact]
  obtain ⟨r, hr, hread⟩ := parse_of_layout _ hchars
  refine ⟨r, hr, ?_, ?_⟩
  · rw [hread.text_name]
    exact String.ofList_toList
  · rw [hread.span, hchars]
    simp [Layout.span, Layout.chars, Layout.compact]

theorem isName_of_parse {source : String} {r : Reference} (h : parse source = .ok r) :
    IsName r.name.text.toList := by
  obtain ⟨l, -, hread⟩ := readAs_of_parse h
  rw [hread.text_name, Layout.text, String.toList_ofList]
  exact l.isName

theorem byteLength_display_le_of_parse {source : String} {r : Reference} (h : parse source = .ok r) :
    Text.byteLength r.display.toList ≤ Text.byteLength source.toList := by
  obtain ⟨l, hl, hread⟩ := readAs_of_parse h
  have hdisplay : r.display.toList = '#' :: l.name := by
    simp [display, VariableName.display, hread.text_name, Layout.text]
  rw [hdisplay, hl]
  simp only [Layout.chars, Text.byteLength_append, Text.byteLength_cons]
  omega

theorem exists_ofText_display {text : String} (h : text ≠ "") (span : Span) :
    ∃ r, ofText text span = .ok r ∧ r.display = "#" ++ text := by
  obtain ⟨name, hname⟩ := exists_ofText h
  refine ⟨_, ofText_eq_ok hname span, ?_⟩
  rw [← VariableName.text_of_ofText hname]
  rfl

theorem exists_parse_marked_iff {text : String} :
    (∃ r, parse ("#" ++ text) = .ok r ∧ r.display = "#" ++ text) ↔ IsName text.toList := by
  constructor
  · rintro ⟨r, hr, hdisplay⟩
    have htext : r.name.text = text := by simpa [display, VariableName.display] using hdisplay
    exact htext ▸ isName_of_parse hr
  · intro isName
    obtain ⟨r, hr, htext, -⟩ := parse_marked isName
    exact ⟨r, hr, congrArg ("#" ++ ·) htext⟩

theorem exists_parse_display {source : String} {r : Reference} (h : parse source = .ok r) :
    ∃ r', parse r.display = .ok r' ∧ r'.name = r.name ∧
      r'.span = ⟨0, Text.byteLength r.display.toList⟩ := by
  obtain ⟨r', hr', htext, hspan⟩ := parse_marked (isName_of_parse h)
  exact ⟨r', hr', VariableName.eq_of_text_eq htext, hspan⟩

theorem name_of_ofText {text : String} {span : Span} {r : Reference} (h : ofText text span = .ok r) :
    (r.name = .this ↔ text = "this") ∧ (r.name = .root ↔ text = "root") ∧
      ((∃ free, r.name = .named text free) ↔ text ≠ "this" ∧ text ≠ "root") := by
  obtain ⟨name, hname⟩ : ∃ name, VariableName.ofText text = .ok name := by
    cases hname : VariableName.ofText text with
    | ok name => exact ⟨name, rfl⟩
    | error e =>
      rw [ofText, Identifier.ofText, hname] at h
      contradiction
  rw [ofText_eq_ok hname span] at h
  cases h
  obtain rfl := VariableName.text_of_ofText hname
  cases name with
  | named text free => simp [Reference.name, VariableName.text, free, free.2.1, free.2.2]
  | _ => simp [Reference.name, VariableName.text]

/-- The display of a text is read back exactly if the text is a name. What was read from some source is
displayed as the same name, from the first byte to the last. -/
theorem display_parses_iff_isName :
    (∀ text span, text ≠ "" → ∃ r, ofText text span = .ok r ∧ r.display = "#" ++ text ∧
      ((∃ r', parse r.display = .ok r' ∧ r'.display = r.display) ↔ IsName text.toList)) ∧
    (∀ source r, parse source = .ok r →
      ∃ r', parse r.display = .ok r' ∧ r'.name = r.name ∧
        r'.span = ⟨0, Text.byteLength r.display.toList⟩ ∧ r'.display = r.display ∧
        (Text.byteLength source.toList < UInt32.size →
          r'.span = .ofOffsets 0 (Text.byteLength r.display.toList))) ∧
    (∀ r r' : Reference, r.display = r'.display ↔ r.name = r'.name) ∧
    ∀ text span r, ofText text span = .ok r →
      (r.name = .this ↔ text = "this") ∧ (r.name = .root ↔ text = "root") ∧
        ((∃ free, r.name = .named text free) ↔ text ≠ "this" ∧ text ≠ "root") := by
  refine ⟨fun text span hempty => ?_, fun source r h => ?_, fun _ _ => display_eq_iff,
    fun _ _ _ => name_of_ofText⟩
  · obtain ⟨r, hr, hdisplay⟩ := exists_ofText_display hempty span
    refine ⟨r, hr, hdisplay, ?_⟩
    rw [hdisplay]
    exact exists_parse_marked_iff
  · obtain ⟨r', hr', hname, hspan⟩ := exists_parse_display h
    refine ⟨r', hr', hname, hspan, display_eq_iff.2 hname, fun hbytes => ?_⟩
    have hfits : Text.byteLength r.display.toList < UInt32.size :=
      (byteLength_display_le_of_parse h).trans_lt hbytes
    exact hspan.trans (Span.eq_ofOffsets (Nat.zero_le _) hfits)

theorem display_parses_iff_isName_wide :
    (∃ r, parse "#größe" = .ok r ∧ r.display = "#größe") ∧
    (∀ text ∈ ["a b", "1x", " x"], ¬∃ r, parse ("#" ++ text) = .ok r ∧ r.display = "#" ++ text) ∧
    (∃ r r', parse "\u3000# größe\t" = .ok r ∧ parse r.display = .ok r' ∧ r'.name = r.name ∧
      r'.span = .ofOffsets 0 8) ∧
    ∃ r, ofText "this" .unlocated = .ok r ∧ r.name = .this := by
  obtain ⟨hprinted, hread, -, hreserved⟩ := display_parses_iff_isName
  refine ⟨?_, ?_, ?_, ?_⟩
  · obtain ⟨r, -, hdisplay, hiff⟩ := hprinted "größe" .unlocated (by decide)
    rw [hdisplay] at hiff
    exact hiff.2 (by decide +kernel)
  · intro text htext
    have hrefused : text ≠ "" ∧ ¬IsName text.toList := by
      revert text
      decide +kernel
    obtain ⟨r, -, hdisplay, hiff⟩ := hprinted text .unlocated hrefused.1
    rw [hdisplay] at hiff
    exact fun hparsed => hrefused.2 (hiff.1 hparsed)
  · obtain ⟨r, hr, hreadAs⟩ := parse_of_layout ⟨['\u3000'], [' '], ['g', 'r', 'ö', 'ß', 'e'], ['\t'],
      by decide, by decide, by decide +kernel, by decide⟩ (by decide : "\u3000# größe\t".toList = _)
    obtain ⟨r', hr', hname, -, -, hspan⟩ := hread _ r hr
    have hdisplay : r.display = "#größe" := by
      rw [display, VariableName.display, hreadAs.text_name]
      decide
    refine ⟨r, r', hr, hr', hname, ?_⟩
    rw [hspan (by decide), hdisplay]
    decide
  · obtain ⟨r, hr, -⟩ := hprinted "this" .unlocated (by decide)
    exact ⟨r, hr, (hreserved _ _ r hr).1.2 rfl⟩

end Reference
end Sigil
