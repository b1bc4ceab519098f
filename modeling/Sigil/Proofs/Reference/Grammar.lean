import Sigil.Proofs.Reference.Departure

/-! The grammar of references: white space, the marker, white space, a name, white space. Reading accepts
exactly the texts that are laid out so, and no name that it reads is refused as an identifier. Any other text
leaves the grammar somewhere, and is refused there. -/

namespace Sigil.Reference

structure Layout where
  before : List Char
  between : List Char
  name : List Char
  behind : List Char
  before_blank : AllBlank before
  between_blank : AllBlank between
  isName : IsName name
  behind_blank : AllBlank behind

namespace Layout

def chars (l : Layout) : List Char := l.before ++ ('#' :: (l.between ++ (l.name ++ l.behind)))

def text (l : Layout) : String := String.ofList l.name

def span (l : Layout) : Span :=
  ⟨Text.byteLength l.before, Text.byteLength (l.before ++ ('#' :: (l.between ++ l.name)))⟩

/-- What a text laid out so is read as: a reserved word means its context object, any other name
itself, and the reference was never evaluated. -/
structure ReadAs (l : Layout) (r : Reference) : Prop where
  this : l.text = "this" → r.name = .this
  root : l.text = "root" → r.name = .root
  named : l.text ≠ "this" → l.text ≠ "root" → ∃ free, r.name = .named l.text free
  span : r.span = l.span
  not_compilable : r.isCompilable = false
  exit : r.exit = none

theorem name_endsBefore (l : Layout) : (Token.Kind.ident l.text).EndsBefore l.behind := by
  intro c hc
  exact isNameContinue_of_isBlank (l.behind_blank c (List.mem_of_mem_head? hc))

theorem text_ne_empty (l : Layout) : l.text ≠ "" := by
  intro hempty
  rw [text, String.ofList_eq_empty_iff] at hempty
  exact l.isName.ne_nil hempty

theorem scan_chars (l : Layout) :
    ∃ hash ident eof, Token.scan 0 l.chars = [⟨.hash, hash⟩, ⟨.ident l.text, ident⟩, ⟨.eof, eof⟩] ∧
      hash.merge ident = l.span := by
  have hhash : Token.scan 0 l.chars =
      ⟨.hash, _⟩ :: Token.scan _ (l.between ++ (l.name ++ l.behind)) :=
    Token.scan_segment l.before_blank .hash trivial 0
  have hname (start : Nat) :
      Token.scan start (l.between ++ (l.name ++ l.behind)) =
        ⟨.ident l.text, _⟩ :: Token.scan _ l.behind :=
    Token.scan_segment l.between_blank (.ident l.isName) l.name_endsBefore start
  rw [hname, Token.scan_allBlank l.behind_blank] at hhash
  refine ⟨_, _, _, hhash, ?_⟩
  simp only [Span.merge, span, Text.byteLength_append, Text.byteLength_cons, Text.byteLength_nil]
  congr 1 <;> omega

end Layout

theorem ofText_eq_ok {text : String} {name : VariableName} (h : VariableName.ofText text = .ok name)
    (span : Span) : ofText text span = .ok ⟨⟨name, span⟩, none⟩ := by
  rw [ofText, Identifier.ofText, h]
  rfl

theorem exists_ofText {text : String} (h : text ≠ "") :
    ∃ name, VariableName.ofText text = .ok name := by
  cases hname : VariableName.ofText text with
  | ok name => exact ⟨name, rfl⟩
  | error e => exact absurd (VariableName.ofText_eq_error.1 hname).1 h

theorem readAs_of_ofText {l : Layout} {name : VariableName}
    (h : VariableName.ofText l.text = .ok name) : l.ReadAs ⟨⟨name, l.span⟩, none⟩ := by
  have htext := VariableName.text_of_ofText h
  refine ⟨?_, ?_, ?_, rfl, rfl, rfl⟩
  · intro hthis
    rw [hthis] at h
    exact (Except.ok.inj h).symm
  · intro hroot
    rw [hroot] at h
    exact (Except.ok.inj h).symm
  · intro hthis hroot
    cases name with
    | this => exact absurd htext.symm hthis
    | root => exact absurd htext.symm hroot
    | named text free =>
      subst htext
      exact ⟨free, rfl⟩

theorem parse_of_layout {source : String} (l : Layout) (h : source.toList = l.chars) :
    ∃ r, parse source = .ok r ∧ l.ReadAs r := by
  obtain ⟨hash, ident, eof, hscan, hspan⟩ := l.scan_chars
  obtain ⟨name, hname⟩ := exists_ofText l.text_ne_empty
  refine ⟨_, ?_, readAs_of_ofText hname⟩
  rw [parse, Token.tokenize, h, hscan]
  simp only [ofTokens, parseName, parseEnd, hspan]
  rw [ofText_eq_ok hname]
  rfl

theorem layout_or_departure (cs : List Char) :
    (∃ l : Layout, cs = l.chars) ∨ ∃ before region behind code label,
      cs = before ++ (region ++ behind) ∧ Departure before region behind code label := by
  -- The text is cut into lexemes from the left, up to the first that the grammar does not have there.
  cases Token.segmented cs with
  | blank blank => exact .inr ⟨cs, [], [], _, _, by simp, .noMarker blank⟩
  | @lexeme kind hash rest before blank lexeme ends tail =>
    by_cases other : kind = .hash
    · subst other
      cases lexeme
      cases tail with
      | blank blank_behind => exact .inr ⟨before, _, _, _, _, rfl, .noName blank blank_behind⟩
      | @lexeme kind cs rest between between_blank lexeme ends tail =>
        have hother (c : Char) (behind : List Char) (not_blank : Unicode.isBlank c = false)
            (not_start : isNameStart c = false) : ∃ before' region behind' code label,
              before ++ (['#'] ++ (between ++ ([c] ++ behind))) = before' ++ (region ++ behind') ∧
                Departure before' region behind' code label :=
          ⟨before ++ '#' :: between, [c], behind, _, _, by simp,
            .otherName blank between_blank not_blank not_start⟩
        cases lexeme with
        | hash => exact .inr (hother '#' rest isBlank_hash isNameStart_hash)
        | unknown not_blank hhash not_start => exact .inr (hother _ rest not_blank not_start)
        | ident isName =>
          cases tail with
          | blank blank_behind =>
            exact .inl ⟨⟨before, between, cs, _, blank, between_blank, isName, blank_behind⟩, rfl⟩
          | @lexeme _ region behind gap gap_blank lexeme ends' tail =>
            exact .inr ⟨before ++ '#' :: (between ++ (cs ++ gap)), region, behind, _, _, by simp,
              .trailing blank between_blank isName ends gap_blank lexeme ends'⟩
    · exact .inr ⟨before, hash, rest, _, _, rfl, .otherMarker blank lexeme ends other⟩

theorem departure_of_parse {source : String} {d : Diagnostic} (h : parse source = .error d) :
    ∃ (cut : d.span.Cut source.toList) (code : ErrorCode) (label : String),
      Departure cut.before cut.region cut.behind code label ∧ d = syntaxError d.span code label := by
  rcases layout_or_departure source.toList with ⟨l, hl⟩ | ⟨before, region, behind, code, label, hcs, hd⟩
  · obtain ⟨r, hr, -⟩ := parse_of_layout l hl
    rw [hr] at h
    contradiction
  · rw [parse_of_departure hd hcs] at h
    cases h
    exact ⟨⟨before, region, behind, hcs, rfl⟩, code, label, hd, rfl⟩

theorem layout_of_parse {source : String} {r : Reference} (h : parse source = .ok r) :
    ∃ l : Layout, source.toList = l.chars := by
  rcases layout_or_departure source.toList with hl | ⟨before, region, behind, code, label, hcs, hd⟩
  · exact hl
  · rw [parse_of_departure hd hcs] at h
    contradiction

theorem readAs_of_parse {source : String} {r : Reference} (h : parse source = .ok r) :
    ∃ l : Layout, source.toList = l.chars ∧ l.ReadAs r := by
  obtain ⟨l, hl⟩ := layout_of_parse h
  obtain ⟨r', hr', hread⟩ := parse_of_layout l hl
  rw [h] at hr'
  cases hr'
  exact ⟨l, hl, hread⟩

theorem exit_of_parse {source : String} {r : Reference} (h : parse source = .ok r) : r.exit = none := by
  obtain ⟨l, -, hread⟩ := readAs_of_parse h
  exact hread.exit

theorem ofText_of_mem_tokenize {source name : String} {region : Span}
    (h : ⟨.ident name, region⟩ ∈ Token.tokenize source) (span : Span) :
    ∃ r, ofText name span = .ok r := by
  have hname : name ≠ "" := by
    rcases Token.standsIn_of_mem_tokenize h with heof | hstands
    · exact absurd heof (by simp)
    · obtain ⟨cut, hlexeme, -⟩ := hstands.lexeme
      generalize cut.region = cs at hlexeme
      cases hlexeme with
      | ident hname =>
        rw [ne_eq, String.ofList_eq_empty_iff]
        exact hname.ne_nil
  obtain ⟨variableName, hok⟩ := exists_ofText hname
  exact ⟨_, ofText_eq_ok hok span⟩

theorem syntaxError_of_parse {source : String} {d : Diagnostic} (h : parse source = .error d) :
    ∃ span code label, d = syntaxError span code label := by
  obtain ⟨cut, code, label, -, hd⟩ := departure_of_parse h
  exact ⟨d.span, code, label, hd⟩

theorem cut_of_parse {source : String} {d : Diagnostic} (h : parse source = .error d)
    (hblank : ¬AllBlank source.toList) :
    (∃ code label, d = syntaxError d.span code label) ∧
      ∃ cut : d.span.Cut source.toList, cut.region ≠ [] := by
  obtain ⟨cut, code, label, departure, hd⟩ := departure_of_parse h
  rw [cut.chars_eq] at hblank
  exact ⟨⟨code, label, hd⟩, cut, departure.region_ne_nil hblank⟩

theorem syntaxError_ne_invalidIdentifier (code : ErrorCode) (label reason : String) (span region : Span) :
    syntaxError span code label ≠ (EvalError.invalidIdentifier reason).diagnostic region := by
  intro h
  -- The codes agree only where no name was given, and then the messages differ in the first letter.
  have hcode : code = .emptyIdentifier := Option.some.inj (congrArg Diagnostic.code h)
  subst hcode
  have hmessage : "variable reference has no name" = "invalid identifier: " ++ reason :=
    congrArg Diagnostic.message h
  have hfirst := congrArg (fun text => text.toList.head?) hmessage
  rw [String.toList_append] at hfirst
  simp at hfirst

/-- Reading accepts exactly the texts that are laid out as references, with a name as long as it can be,
and refuses no text for the name it has. -/
theorem parse_ok_iff_layout (source : String) :
    ((∃ r, parse source = .ok r) ↔ ∃ l : Layout, source.toList = l.chars) ∧
      (∀ l : Layout, source.toList = l.chars →
        (∃ r, parse source = .ok r ∧ l.ReadAs r) ∧
          ∀ c ∈ l.behind.head?, isNameContinue c = false) ∧
      (∀ name region span, ⟨.ident name, region⟩ ∈ Token.tokenize source →
        ∃ r, ofText name span = .ok r) ∧
      ∀ reason region, parse source ≠ .error ((EvalError.invalidIdentifier reason).diagnostic region) := by
  refine ⟨⟨?_, ?_⟩, ?_, ?_, ?_⟩
  · rintro ⟨r, h⟩
    exact layout_of_parse h
  · rintro ⟨l, h⟩
    obtain ⟨r, hr, -⟩ := parse_of_layout l h
    exact ⟨r, hr⟩
  · intro l h
    exact ⟨parse_of_layout l h, l.name_endsBefore⟩
  · intro name region span h
    exact ofText_of_mem_tokenize h span
  · intro reason region h
    obtain ⟨span, code, label, herror⟩ := syntaxError_of_parse h
    exact syntaxError_ne_invalidIdentifier code label reason span region herror.symm

theorem parse_wide_spaced :
    ∃ r free, parse "\u3000# größe9\t" = .ok r ∧ r.name = .named "größe9" free ∧
      r.span = ⟨3, 13⟩ ∧ r.isCompilable = false := by
  have h := (parse_ok_iff_layout "\u3000# größe9\t").2.1
    ⟨['\u3000'], [' '], ['g', 'r', 'ö', 'ß', 'e', '9'], ['\t'], by decide, by decide,
      by decide +kernel, by decide⟩ (by decide)
  obtain ⟨⟨r, hr, hread⟩, -⟩ := h
  obtain ⟨free, hname⟩ := hread.named (by decide) (by decide)
  exact ⟨r, free, hr, hname, hread.span.trans (by decide), hread.not_compilable⟩

/-- A text is refused exactly if it leaves the grammar, and the diagnostic tells where and how. -/
theorem parse_error_iff_departure (source : String) (d : Diagnostic) :
    (parse source = .error d ↔
      ∃ (cut : d.span.Cut source.toList) (code : ErrorCode) (label : String),
        Departure cut.before cut.region cut.behind code label ∧
          d = ⟨.error, .reading, some code, code.description, d.span, [⟨d.span, label⟩], [],
            code.suggestion?⟩) ∧
      (parse source = .error d → Text.byteLength source.toList < UInt32.size →
        d.span = .ofOffsets d.span.start d.span.stop) := by
  refine ⟨⟨departure_of_parse, ?_⟩, ?_⟩
  · rintro ⟨cut, code, label, departure, hd⟩
    rw [parse_of_departure departure cut.chars_eq, ← cut.span_eq, hd]
    rfl
  · intro h hbytes
    obtain ⟨cut, -⟩ := departure_of_parse h
    exact Span.eq_ofOffsets cut.start_le_stop (cut.stop_le.trans_lt hbytes)

theorem parse_error_wide :
    let d : Diagnostic := ⟨.error, .reading, some .unexpectedCharacter,
      "unexpected character in variable reference", ⟨4, 6⟩, [⟨⟨4, 6⟩, "unexpected character `½`"⟩], [],
      none⟩
    parse "#\u3000½x" = .error d ∧ d.span = .ofOffsets d.span.start d.span.stop := by
  intro d
  have departure : Departure ([] ++ '#' :: ['\u3000']) ['½'] ['x'] .unexpectedCharacter
      ("unexpected character `" ++ String.singleton '½' ++ "`") :=
    .otherName allBlank_nil (by decide) (by decide +kernel) (by decide +kernel)
  have h := (parse_error_iff_departure "#\u3000½x" d).1.2
    ⟨⟨['#', '\u3000'], ['½'], ['x'], by decide, by decide⟩, _, _, departure, by decide⟩
  exact ⟨h, (parse_error_iff_departure "#\u3000½x" d).2 h (by decide)⟩

end Sigil.Reference
