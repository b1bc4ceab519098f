import Sigil.Json.Basic
import Sigil.Json.Fault
import Sigil.Text.Bytes

/-!
Reading the parts of a JSON text that hold no other part: blanks, literal names, numbers and
strings. A cursor is what is left of the text and the count of bytes consumed before it.

A number is read as an integer while its digits fit 64 bits and it has no point and no exponent. In
every other case the digits that fit 64 bits are taken as they stand, the others only move the
point, and the number is that significand rounded, then multiplied or divided by a rounded power of
ten and rounded again.
-/

namespace Sigil.Json

structure Cursor where
  rest : List Char
  bytes : Nat

abbrev Reading (α : Type) := Cursor → Except (Refusal Fault) (α × Cursor)

namespace Cursor

def start (text : String) : Cursor := ⟨text.toList, 0⟩

def next (c : Cursor) : Cursor :=
  match c.rest with
  | [] => c
  | x :: xs => ⟨xs, c.bytes + x.utf8Size⟩

def refuse {α : Type} (c : Cursor) (fault : Fault) : Except (Refusal Fault) α :=
  .error ⟨fault, c.bytes⟩

def refuseNext {α : Type} (c : Cursor) (fault : Fault) : Except (Refusal Fault) α :=
  .error ⟨fault, if c.rest.isEmpty then c.bytes else c.bytes + 1⟩

end Cursor

def isBlank (c : Char) : Bool := c == ' ' || c == '\n' || c == '\t' || c == '\r'

def skipBlanks (bytes : Nat) : List Char → Cursor
  | [] => ⟨[], bytes⟩
  | c :: cs => if isBlank c then skipBlanks (bytes + 1) cs else ⟨c :: cs, bytes⟩

def Cursor.skipBlanks (c : Cursor) : Cursor := Json.skipBlanks c.bytes c.rest

def readName (bytes : Nat) : List Char → List Char → Except (Refusal Fault) Cursor
  | [], rest => .ok ⟨rest, bytes⟩
  | _ :: _, [] => .error ⟨.unfinished .value, bytes⟩
  | x :: xs, y :: ys => if x = y then readName (bytes + 1) xs ys else .error ⟨.expectedIdent, bytes + 1⟩

def Cursor.readName {α : Type} (c : Cursor) (name : List Char) (value : α) :
    Except (Refusal Fault) (α × Cursor) :=
  (Json.readName c.bytes name c.rest).map fun c => (value, c)

def maxSignificand : Nat := UInt64.size - 1

structure Taken where
  significand : Nat
  count : Nat
  rest : List Char

def takeDigits (significand count : Nat) : List Char → Taken
  | [] => ⟨significand, count, []⟩
  | c :: cs =>
    let more := 10 * significand + (c.toNat - 48)
    if c.isDigit && decide (more ≤ maxSignificand) then takeDigits more (count + 1) cs
    else ⟨significand, count, c :: cs⟩

def skipDigits (count : Nat) : List Char → Nat × List Char
  | [] => (count, [])
  | c :: cs => if c.isDigit then skipDigits (count + 1) cs else (count, c :: cs)

/-- A significand times a power of ten: rounded, scaled by rounded powers, and rounded again.
Nothing is left below `10 ^ (-616)`; nothing is returned for a number too large for the format. -/
def scaled (negative : Bool) (significand : Nat) (exponent : Int) : Option Binary64 :=
  match Binary64.nearest negative significand 1 with
  | .finite x =>
    if x.isZero then some (.zero negative)
    else if 308 < exponent then none
    else if 0 ≤ exponent then
      match Binary64.powerOfTen exponent.toNat with
      | .finite p =>
        match x.mul p with
        | .finite y => some (.finite y)
        | _ => none
      | _ => none
    else if -308 ≤ exponent then divided x (-exponent).toNat
    else if -616 ≤ exponent then
      -- the power itself is infinite here, so it is divided out in two parts
      match divided x 308 with
      | some (.finite y) => divided y (-exponent - 308).toNat
      | other => other
    else some (.zero negative)
  | _ => none
where
  divided (x : Binary64.Finite) (k : Nat) : Option Binary64 :=
    match Binary64.powerOfTen k with
    | .finite p => some (x.div p)
    | _ => none

def Cursor.scaled (c : Cursor) (negative : Bool) (significand : Nat) (exponent : Int) :
    Except (Refusal Fault) (JsonNumber × Cursor) :=
  match Json.scaled negative significand exponent with
  | some x => .ok (.float x, c)
  | none => c.refuse .numberOutOfRange

def maxExponent : Nat := 2147483647

def takeExponent (bytes exponent : Nat) : List Char → Nat × Bool × Cursor
  | [] => (exponent, false, ⟨[], bytes⟩)
  | c :: cs =>
    if c.isDigit then
      let more := 10 * exponent + (c.toNat - 48)
      if more ≤ maxExponent then takeExponent (bytes + 1) more cs
      else (exponent, true, ⟨cs, bytes + 1⟩)
    else (exponent, false, ⟨c :: cs, bytes⟩)

def readExponent (negative : Bool) (significand : Nat) (point : Int) (c : Cursor) :
    Except (Refusal Fault) (JsonNumber × Cursor) :=
  let (below, c) :=
    match c.rest with
    | '-' :: _ => (true, c.next)
    | '+' :: _ => (false, c.next)
    | _ => (false, c)
  match c.rest with
  | [] => c.refuse (.unfinished .value)
  | d :: _ =>
    if d.isDigit then
      let (exponent, overflow, c) := takeExponent c.bytes 0 c.rest
      if overflow then
        if significand ≠ 0 ∧ below = false then c.refuse .numberOutOfRange
        else
          let (n, rest) := skipDigits 0 c.rest
          .ok (.float (.zero negative), ⟨rest, c.bytes + n⟩)
      else c.scaled negative significand (if below then point - exponent else point + exponent)
    else .error ⟨.invalidNumber, c.bytes + 1⟩

def readFloatEnd (negative : Bool) (significand : Nat) (point : Int) (c : Cursor) :
    Except (Refusal Fault) (JsonNumber × Cursor) :=
  match c.rest with
  | 'e' :: _ | 'E' :: _ => readExponent negative significand point c.next
  | _ => c.scaled negative significand point

def readFraction (negative : Bool) (significand : Nat) (point : Int) (c : Cursor) :
    Except (Refusal Fault) (JsonNumber × Cursor) :=
  match c.rest with
  | [] => c.refuse (.unfinished .value)
  | d :: _ =>
    if d.isDigit then
      let t := takeDigits significand 0 c.rest
      let (dropped, rest) := skipDigits 0 t.rest
      readFloatEnd negative t.significand (point - t.count) ⟨rest, c.bytes + t.count + dropped⟩
    else c.refuseNext .invalidNumber

/-- An integer of at most 64 bits; a negative zero, and what lies below the negative integers of 64
bits, is a floating point number. -/
def integer (negative : Bool) (significand : Nat) : JsonNumber :=
  if negative then
    if significand = 0 ∨ UInt64.size / 2 < significand then .float (.nearest true significand 1)
    else .int (-significand)
  else .int significand

def readNumberEnd (negative : Bool) (significand : Nat) (c : Cursor) :
    Except (Refusal Fault) (JsonNumber × Cursor) :=
  match c.rest with
  | '.' :: _ => readFraction negative significand 0 c.next
  | 'e' :: _ | 'E' :: _ => readExponent negative significand 0 c.next
  | _ => .ok (integer negative significand, c)

def readNumber (negative : Bool) (c : Cursor) : Except (Refusal Fault) (JsonNumber × Cursor) :=
  match c.rest with
  | [] => c.refuse (.unfinished .value)
  | '0' :: rest =>
    match rest with
    | [] => readNumberEnd negative 0 c.next
    | d :: _ =>
      if d.isDigit then c.next.refuseNext .invalidNumber else readNumberEnd negative 0 c.next
  | d :: _ =>
    if d.isDigit then
      let t := takeDigits 0 0 c.rest
      let (dropped, rest) := skipDigits 0 t.rest
      let after : Cursor := ⟨rest, c.bytes + t.count + dropped⟩
      if dropped = 0 then readNumberEnd negative t.significand after
      else
        match rest with
        | '.' :: _ => readFraction negative t.significand dropped after.next
        | _ => readFloatEnd negative t.significand dropped after
    else .error ⟨.invalidNumber, c.bytes + 1⟩

def hexDigit? (c : Char) : Option Nat :=
  if '0' ≤ c ∧ c ≤ '9' then some (c.toNat - 48)
  else if 'a' ≤ c ∧ c ≤ 'f' then some (c.toNat - 87)
  else if 'A' ≤ c ∧ c ≤ 'F' then some (c.toNat - 55)
  else none

def readCodeUnit (c : Cursor) : Except (Refusal Fault) (Nat × Cursor) :=
  if Text.byteLength c.rest < 4 then .error ⟨.unfinished .string, c.bytes + Text.byteLength c.rest⟩
  else
    match c.rest with
    | w :: x :: y :: z :: rest =>
      match hexDigit? w, hexDigit? x, hexDigit? y, hexDigit? z with
      | some w, some x, some y, some z =>
        .ok (4096 * w + 256 * x + 16 * y + z, ⟨rest, c.bytes + 4⟩)
      | _, _, _, _ => .error ⟨.invalidEscape, c.bytes + 4⟩
    | _ => .error ⟨.invalidEscape, c.bytes + 4⟩

def readTrailingSurrogate (lead : Nat) (c : Cursor) : Except (Refusal Fault) (Char × Cursor) :=
  match c.rest with
  | [] => c.refuse (.unfinished .string)
  | '\\' :: 'u' :: _ =>
    match readCodeUnit c.next.next with
    | .error r => .error r
    | .ok (trail, c) =>
      if trail < 0xDC00 ∨ 0xDFFF < trail then c.refuse .loneSurrogate
      else .ok (Char.ofNat (0x10000 + 0x400 * (lead - 0xD800) + (trail - 0xDC00)), c)
  | '\\' :: [] => c.next.refuse (.unfinished .string)
  | '\\' :: _ :: _ => .error ⟨.unfinishedSurrogatePair, c.bytes + 2⟩
  | _ :: _ => .error ⟨.unfinishedSurrogatePair, c.bytes + 1⟩

def readCodePoint (c : Cursor) : Except (Refusal Fault) (Char × Cursor) :=
  match readCodeUnit c with
  | .error r => .error r
  | .ok (unit, c) =>
    if 0xDC00 ≤ unit ∧ unit ≤ 0xDFFF then c.refuse .loneSurrogate
    else if 0xD800 ≤ unit ∧ unit ≤ 0xDBFF then readTrailingSurrogate unit c
    else .ok (Char.ofNat unit, c)

def readEscape (c : Cursor) : Except (Refusal Fault) (Char × Cursor) :=
  match c.rest with
  | [] => c.refuse (.unfinished .string)
  | x :: _ =>
    if x = '"' ∨ x = '\\' ∨ x = '/' then .ok (x, c.next)
    else if x = 'b' then .ok ('\x08', c.next)
    else if x = 'f' then .ok ('\x0c', c.next)
    else if x = 'n' then .ok ('\n', c.next)
    else if x = 'r' then .ok ('\r', c.next)
    else if x = 't' then .ok ('\t', c.next)
    else if x = 'u' then readCodePoint c.next
    else .error ⟨.invalidEscape, c.bytes + 1⟩

/-- Reads the characters of a string up to its closing quote, onto those read before. Each step
takes a character, so a bound of the characters left is never reached. -/
def readCharacters : Nat → List Char → Cursor → Except (Refusal Fault) (String × Cursor)
  | 0, _, c => c.refuse (.unfinished .string)
  | bound + 1, before, c =>
    match c.rest with
    | [] => c.refuse (.unfinished .string)
    | x :: _ =>
      if x = '"' then .ok (String.ofList before.reverse, c.next)
      else if x = '\\' then
        match readEscape c.next with
        | .error r => .error r
        | .ok (y, c) => readCharacters bound (y :: before) c
      else if x.toNat < 0x20 then .error ⟨.controlCharacter, c.bytes + 1⟩
      else readCharacters bound (x :: before) c.next

def readString (c : Cursor) : Except (Refusal Fault) (String × Cursor) :=
  readCharacters (c.rest.length + 1) [] c

end Sigil.Json
