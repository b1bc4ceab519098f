import Sigil.Binary64.Shortest

/-!
The two texts of a number. The plain text is positional at every size and leaves out an empty
fraction; the data text always shows that the number is not an integer, and turns to an exponent
for very large and very small numbers.
-/

namespace Sigil

namespace Decimal

def zeros (n : Nat) : List Char := List.replicate n '0'

def positional (d : Decimal) (fraction : List Char) : List Char :=
  if d.point ≤ 0 then '0' :: '.' :: zeros (-d.point).toNat ++ d.digits
  else
    let whole := d.point.toNat
    if d.digits.length ≤ whole then d.digits ++ zeros (whole - d.digits.length) ++ fraction
    else d.digits.take whole ++ '.' :: d.digits.drop whole

def scientific (d : Decimal) : List Char :=
  let e := d.point - 1
  let exponent := (if e < 0 then ['e', '-'] else ['e', '+']) ++ Nat.toDigits 10 e.natAbs
  match d.digits with
  | [] => exponent
  | c :: [] => c :: exponent
  | c :: cs => c :: '.' :: cs ++ exponent

end Decimal

namespace Binary64

def signed (negative : Bool) (cs : List Char) : String :=
  String.ofList (if negative then '-' :: cs else cs)

def text : Binary64 → String
  | .nan => "NaN"
  | .infinite negative => signed negative ['i', 'n', 'f']
  | .finite x =>
    signed x.negative (if x.isZero then ['0'] else (x.shortest .up).positional [])

/-- The data text: the fewest digits that read back, a tie to the even digit; positional from
`10 ^ (-5)` up to `10 ^ 16`, with a fraction in every case. -/
def dataText : Binary64 → String
  | .nan | .infinite _ => "null"
  | .finite x =>
    signed x.negative <|
      if x.isZero then ['0', '.', '0']
      else
        let d := x.shortest .toEven
        if -4 ≤ d.point ∧ d.point ≤ 16 then d.positional ['.', '0'] else d.scientific

end Binary64
end Sigil
