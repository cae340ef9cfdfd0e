/-!
# Number/Binary — binary floating-point values in exact arithmetic

A finite value is a sign, a natural mantissa and a power of two, so it denotes a rational exactly.
A format bounds the mantissa and the exponent; rounding a rational into a format takes the nearest
value, ties going to the even mantissa.
-/

namespace TensorGraph.Number

/-- Two to the power `n`. -/
def twoTo (n : Nat) : Nat := Nat.pow 2 n

/-- Ten to the power `n`. -/
def tenTo (n : Nat) : Nat := Nat.pow 10 n

/-- A binary floating-point value: `± mantissa · 2 ^ exponent`, an infinity or not a number. -/
inductive Binary where
  | finite (negative : Bool) (mantissa : Nat) (exponent : Int)
  | infinite (negative : Bool)
  | nan
  deriving DecidableEq, Repr

/-- The bounds of a format: mantissas are below `2 ^ precision`, exponents lie between `least` and
`greatest`. -/
structure BinaryFormat where
  precision : Nat
  least : Int
  greatest : Int

/-- The 64-bit format. -/
def BinaryFormat.double : BinaryFormat := ⟨53, -1074, 971⟩

/-- The 32-bit format. -/
def BinaryFormat.single : BinaryFormat := ⟨24, -149, 104⟩

/-- `num / den` to the nearest natural number, ties to the even one. -/
def roundDiv (num den : Nat) : Nat :=
  let q := num / den
  let r := num % den
  if den < 2 * r || (2 * r == den && q % 2 == 1) then q + 1 else q

/-- `num / den` with a power of two moved into whichever side keeps both natural. -/
def scaleTwo (num den : Nat) (e : Int) : Nat × Nat :=
  if 0 ≤ e then (num, den * twoTo e.toNat) else (num * twoTo (-e).toNat, den)

/-- The exponent of the leading bit of a positive rational: the greatest `k` with
`2 ^ k ≤ num / den`. -/
def leadingExponent (num den : Nat) : Int :=
  let k : Int := (Nat.log2 num : Int) - Nat.log2 den
  let (a, b) := scaleTwo num den k
  if a < b then k - 1 else k

/-- The nearest value of a format to the rational `num / den` under a sign; too large a rational
becomes an infinity. -/
def BinaryFormat.round (f : BinaryFormat) (negative : Bool) (num den : Nat) : Binary :=
  if num = 0 then .finite negative 0 f.least
  else
    let e := max (leadingExponent num den - f.precision + 1) f.least
    let (a, b) := scaleTwo num den e
    let m := roundDiv a b
    let (m, e) := if m = twoTo f.precision then (twoTo (f.precision - 1), e + 1) else (m, e)
    if f.greatest < e then .infinite negative else .finite negative m e

/-- A value rounded into a format. -/
def Binary.roundTo (f : BinaryFormat) : Binary → Binary
  | .finite negative m e =>
    if 0 ≤ e then f.round negative (m * twoTo e.toNat) 1 else f.round negative m (twoTo (-e).toNat)
  | x => x

/-- An integer rounded into a format. -/
def BinaryFormat.ofInt (f : BinaryFormat) (i : Int) : Binary :=
  f.round (i < 0) i.natAbs 1

/-- The decimal `digits · 10 ^ power`, which has `count` digits, rounded into a format; none when
it is too large for it.  Powers far outside the format are decided without computing them. -/
def BinaryFormat.ofDecimal? (f : BinaryFormat) (negative : Bool) (digits count : Nat)
    (power : Int) : Option Binary :=
  if digits = 0 then some (.finite negative 0 f.least)
  else if 400 < power + count then none
  else if power + count < -400 then some (.finite negative 0 f.least)
  else
    let value :=
      if 0 ≤ power then f.round negative (digits * tenTo power.toNat) 1
      else f.round negative digits (tenTo (-power).toNat)
    match value with
    | .infinite _ => none
    | x => some x

/-- The integer part of a finite value, toward zero. -/
def truncated (negative : Bool) (m : Nat) (e : Int) : Int :=
  let n : Nat := if 0 ≤ e then m * twoTo e.toNat else m / twoTo (-e).toNat
  if negative then -n else n

end TensorGraph.Number
