import Sigil.Proofs.Token.Tokenization
import Sigil.Reference.Parser

/-! Where a text first leaves the grammar of references. There are four ways to do so, and the reader refuses
a text at the place, with the code and with the label, that the way it leaves the grammar by calls for. -/

namespace Sigil.Reference

/-- A text, cut before and behind the region where it first leaves the grammar. The characters before the
region are those of a reference as far as it goes. -/
inductive Departure : List Char → List Char → List Char → ErrorCode → String → Prop
  | noMarker {before : List Char} (blank : AllBlank before) :
      Departure before [] [] .missingReferenceMarker "expected `#`"
  | otherMarker {before region behind : List Char} {kind : Token.Kind} (blank : AllBlank before)
      (lexeme : Token.Lexeme kind region) (ends : kind.EndsBefore behind) (other : kind ≠ .hash) :
      Departure before region behind .missingReferenceMarker "expected `#`"
  | noName {before behind : List Char} (blank : AllBlank before) (blank_behind : AllBlank behind) :
      Departure before ['#'] behind .emptyIdentifier "expected a variable name after `#`"
  | otherName {before between behind : List Char} {c : Char} (blank : AllBlank before)
      (between_blank : AllBlank between) (not_blank : Unicode.isBlank c = false)
      (not_start : isNameStart c = false) :
      Departure (before ++ '#' :: between) [c] behind .unexpectedCharacter
        ("unexpected character `" ++ String.singleton c ++ "`")
  | trailing {before between name gap region behind : List Char} {kind : Token.Kind}
      (blank : AllBlank before) (between_blank : AllBlank between) (isName : IsName name)
      (name_ends : (Token.Kind.ident (String.ofList name)).EndsBefore (gap ++ (region ++ behind)))
      (gap_blank : AllBlank gap) (lexeme : Token.Lexeme kind region) (ends : kind.EndsBefore behind) :
      Departure (before ++ '#' :: (between ++ (name ++ gap))) region behind .trailingInput
        "expected end of input after the variable name"

theorem scan_marker {before : List Char} (blank : AllBlank before) (rest : List Char) :
    Token.scan 0 (before ++ '#' :: rest) =
      ⟨.hash, ⟨Text.byteLength before, Text.byteLength (before ++ ['#'])⟩⟩ ::
        Token.scan (Text.byteLength (before ++ ['#'])) rest := by
  have hends : Token.Kind.hash.EndsBefore rest := trivial
  exact Token.scan_behind [] blank .hash hends

namespace Departure

variable {before region behind : List Char} {code : ErrorCode} {label : String}

theorem region_ne_nil (h : Departure before region behind code label)
    (hblank : ¬AllBlank (before ++ (region ++ behind))) : region ≠ [] := by
  cases h with
  | noMarker blank =>
    rw [List.append_nil, List.append_nil] at hblank
    exact absurd blank hblank
  | otherMarker blank lexeme ends other => exact lexeme.ne_nil
  | noName blank blank_behind => simp
  | otherName blank between_blank not_blank not_start => simp
  | trailing blank between_blank isName name_ends gap_blank lexeme ends => exact lexeme.ne_nil

theorem ofTokens_scan (h : Departure before region behind code label) :
    ofTokens (Token.scan 0 (before ++ (region ++ behind))) =
      .error (syntaxError ⟨Text.byteLength before, Text.byteLength (before ++ region)⟩ code label) := by
  cases h with
  | noMarker blank =>
    rw [List.append_nil, List.append_nil, Token.scan_allBlank blank]
    simp only [ofTokens, Nat.zero_add]
  | otherMarker blank lexeme ends other =>
    rw [← Text.byteLength_nil, Token.scan_behind [] blank lexeme ends]
    cases lexeme with
    | hash => exact absurd rfl other
    | ident isName => rfl
    | unknown hblank hhash hstart => rfl
  | noName blank blank_behind =>
    rw [List.singleton_append, scan_marker blank, Token.scan_allBlank blank_behind]
    rfl
  | @otherName before between behind c blank between_blank not_blank not_start =>
    have hlexeme : ∃ kind, Token.Lexeme kind [c] ∧ kind.EndsBefore behind ∧ ∀ span rest hash,
        parseName hash (⟨kind, span⟩ :: rest) = .error (syntaxError span .unexpectedCharacter
          ("unexpected character `" ++ String.singleton c ++ "`")) := by
      by_cases hhash : c = '#'
      · exact ⟨.hash, hhash ▸ .hash, trivial, fun _ _ _ => hhash ▸ rfl⟩
      · exact ⟨.unknown c, .unknown not_blank hhash not_start, trivial, fun _ _ _ => rfl⟩
    obtain ⟨kind, lexeme, ends, hparse⟩ := hlexeme
    rw [List.append_assoc, List.cons_append, scan_marker blank,
      Token.scan_behind _ between_blank lexeme ends, ofTokens, hparse]
    simp only [List.append_assoc, List.cons_append, List.nil_append]
  | @trailing before between name gap region behind kind blank between_blank isName name_ends gap_blank
      lexeme ends =>
    have hend (text : String) (span region : Span) (rest : List Token) :
        parseEnd text span (⟨kind, region⟩ :: rest) = .error (syntaxError region .trailingInput
          "expected end of input after the variable name") := by
      cases lexeme <;> rfl
    simp only [List.append_assoc, List.cons_append]
    rw [scan_marker blank, Token.scan_behind _ between_blank (.ident isName) name_ends,
      Token.scan_behind _ gap_blank lexeme ends, ofTokens, parseName, hend]
    simp only [List.append_assoc, List.cons_append, List.nil_append]

end Departure

theorem parse_of_departure {source : String} {before region behind : List Char} {code : ErrorCode}
    {label : String} (h : Departure before region behind code label)
    (hchars : source.toList = before ++ (region ++ behind)) :
    parse source =
      .error (syntaxError ⟨Text.byteLength before, Text.byteLength (before ++ region)⟩ code label) := by
  rw [parse, Token.tokenize, hchars, h.ofTokens_scan]

end Sigil.Reference
