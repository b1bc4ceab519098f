/-!
Binary floating point numbers of 64 bits, as what they denote. A finite number is a sign and a
magnitude `mantissa · 2 ^ scale` counted in units of `2 ^ (-1074)`, the least positive number. Each
number has one representation, so equality of numbers is equality of representations but for two
rules: the two zeros are equal, and what is not a number equals nothing.

`nearest` rounds a quotient of natural numbers to the nearest number, a tie to the even mantissa; all
arithmetic here is exact arithmetic followed by `nearest`.
-/

namespace Sigil

def Binary64.unitScale : Nat := 1074

def Binary64.maxScale : Nat := 2045

/-- A finite number. The mantissa has 53 bits, or fewer at scale zero. -/
structure Binary64.Finite where
  negative : Bool
  mantissa : Nat
  scale : Nat
  mantissa_lt : mantissa < 1 <<< 53
  normal : scale = 0 ∨ 1 <<< 52 ≤ mantissa
  scale_le : scale ≤ Binary64.maxScale
  deriving DecidableEq

inductive Binary64 where
  | nan
  | infinite (negative : Bool)
  | finite (x : Binary64.Finite)
  deriving DecidableEq

namespace Binary64

namespace Finite

def zero (negative : Bool) : Finite :=
  ⟨negative, 0, 0, by decide, .inl rfl, by decide⟩

instance : Inhabited Finite := ⟨zero false⟩

def isZero (x : Finite) : Bool := x.mantissa == 0

def units (x : Finite) : Nat := x.mantissa <<< x.scale

def withSign (x : Finite) (negative : Bool) : Finite := { x with negative := negative }

protected def beq (x y : Finite) : Bool :=
  x.mantissa == y.mantissa && x.scale == y.scale && (x.negative == y.negative || x.mantissa == 0)

end Finite

def zero (negative : Bool) : Binary64 := .finite (.zero negative)

instance : Inhabited Binary64 := ⟨zero false⟩

protected def beq : Binary64 → Binary64 → Bool
  | .nan, _ | _, .nan => false
  | .infinite a, .infinite b => a == b
  | .finite x, .finite y => x.beq y
  | _, _ => false

def isFinite : Binary64 → Bool
  | .finite _ => true
  | _ => false

def negate : Binary64 → Binary64
  | .nan => .nan
  | .infinite negative => .infinite !negative
  | .finite x => .finite (x.withSign !x.negative)

def roundQuotient (num den : Nat) : Nat :=
  let q := num / den
  let twice := 2 * (num % den)
  if twice < den then q else if den < twice then q + 1 else q + q % 2

def ofRounded (negative : Bool) (mantissa scale : Nat) : Binary64 :=
  if hm : mantissa < 1 <<< 53 then
    if hn : scale = 0 ∨ 1 <<< 52 ≤ mantissa then
      if hs : scale ≤ maxScale then .finite ⟨negative, mantissa, scale, hm, hn, hs⟩
      else .infinite negative
    else zero negative
  else
    if hs : scale + 1 ≤ maxScale then
      .finite ⟨negative, 1 <<< 52, scale + 1, by decide, .inr (Nat.le_refl _), hs⟩
    else .infinite negative

/-- The number nearest to `num / den` with the given sign, a tie to the even mantissa; infinity from
half a step above the greatest finite number on. -/
def nearest (negative : Bool) (num den : Nat) : Binary64 :=
  let units := num <<< unitScale
  let scale := (units / den).log2 - 52
  ofRounded negative (roundQuotient units (den <<< scale)) scale

def ofNat (n : Nat) : Binary64 := nearest false n 1

def ofInt (n : Int) : Binary64 := nearest (n < 0) n.natAbs 1

def powerOfTen (k : Nat) : Binary64 := ofNat (Nat.pow 10 k)

def Finite.mul (x y : Finite) : Binary64 :=
  nearest (x.negative != y.negative) (x.units * y.units) (1 <<< (2 * unitScale))

def Finite.div (x y : Finite) : Binary64 :=
  nearest (x.negative != y.negative) x.units y.units

@[simp] theorem not_nan_beq (x : Binary64) : Binary64.beq .nan x = false := by
  cases x <;> rfl

@[simp] theorem not_beq_nan (x : Binary64) : Binary64.beq x .nan = false := by
  cases x <;> rfl

theorem Finite.beq_self (x : Finite) : x.beq x = true := by
  simp [Finite.beq]

theorem beq_self (x : Binary64) : x.beq x = true ↔ x ≠ .nan := by
  cases x <;> simp [Binary64.beq, Finite.beq_self]

theorem Finite.beq_iff (x y : Finite) :
    x.beq y = true ↔ (x.mantissa = y.mantissa ∧ x.scale = y.scale) ∧
      (x.negative = y.negative ∨ x.mantissa = 0) := by
  simp [Finite.beq]

theorem Finite.beq_comm (x y : Finite) : x.beq y = y.beq x := by
  rw [Bool.eq_iff_iff, beq_iff, beq_iff]
  constructor <;> rintro ⟨⟨hm, hs⟩, h⟩ <;> exact ⟨⟨hm.symm, hs.symm⟩, h.imp Eq.symm (hm ▸ ·)⟩

theorem beq_comm (x y : Binary64) : x.beq y = y.beq x := by
  cases x <;> cases y <;> simp only [Binary64.beq]
  · exact Bool.beq_comm
  · exact Finite.beq_comm _ _

theorem Finite.beq_trans {x y z : Finite} (hxy : x.beq y = true) (hyz : y.beq z = true) :
    x.beq z = true := by
  rw [beq_iff] at *
  obtain ⟨⟨hmantissa, hscale⟩, hsign⟩ := hxy
  obtain ⟨⟨hmantissa', hscale'⟩, hsign'⟩ := hyz
  refine ⟨⟨hmantissa.trans hmantissa', hscale.trans hscale'⟩, ?_⟩
  rcases hsign with hsign | hzero
  · exact hsign'.imp hsign.trans hmantissa.trans
  · exact .inr hzero

theorem beq_trans {x y z : Binary64} (hxy : x.beq y = true) (hyz : y.beq z = true) : x.beq z = true := by
  cases x <;> cases y <;> simp only [Binary64.beq, Bool.false_eq_true] at hxy
  · cases z <;> simp only [Binary64.beq, Bool.false_eq_true, beq_iff_eq] at *
    exact hxy.trans hyz
  · cases z <;> simp only [Binary64.beq, Bool.false_eq_true] at *
    exact Finite.beq_trans hxy hyz

end Binary64
end Sigil
