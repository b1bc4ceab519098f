import Sigil.Reference.Basic
import Sigil.Token

/-!
Reading a reference from text: the marker, a name, and nothing else but white space. The first token
that is out of place is what the diagnostic points at.
-/

namespace Sigil.Reference

def syntaxError (span : Span) (code : ErrorCode) (label : String) : Diagnostic :=
  ((Diagnostic.error .reading span code.description).withCode code).withLabel ⟨span, label⟩

def parseEnd (text : String) (span : Span) : List Token → Except Diagnostic Reference
  | [] | ⟨.eof, _⟩ :: _ => (ofText text span).mapError fun e => e.diagnostic span
  | t :: _ =>
    .error (syntaxError t.span .trailingInput "expected end of input after the variable name")

def parseName (hash : Span) : List Token → Except Diagnostic Reference
  | [] | ⟨.eof, _⟩ :: _ =>
    .error (syntaxError hash .emptyIdentifier "expected a variable name after `#`")
  | ⟨.ident name, span⟩ :: rest => parseEnd name (hash.merge span) rest
  | ⟨.unknown c, span⟩ :: _ =>
    .error (syntaxError span .unexpectedCharacter
      ("unexpected character `" ++ String.singleton c ++ "`"))
  | ⟨.hash, span⟩ :: _ =>
    .error (syntaxError span .unexpectedCharacter "unexpected character `#`")

def ofTokens : List Token → Except Diagnostic Reference
  | ⟨.hash, span⟩ :: rest => parseName span rest
  | t :: _ => .error (syntaxError t.span .missingReferenceMarker "expected `#`")
  | [] => .error (syntaxError .unlocated .missingReferenceMarker "expected `#`")

def parse (source : String) : Except Diagnostic Reference := ofTokens (Token.tokenize source)

end Sigil.Reference
