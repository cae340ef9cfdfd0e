import TensorGraph.Number.Binary

/-!
# Number/Shortest — the fewest decimal digits that read back

A binary value `m · 2 ^ q` owns the interval of reals that round to it; the ends belong to it when
`m` is even.  For one, two, three … digits the two neighbours of the value on that decimal grid are
tested against the interval in exact arithmetic: the first grid with a hit wins, of two hits the
nearer, and of two equally near the even one.
-/

namespace TensorGraph.Number

/-- A positive binary value together with the interval that rounds to it, all in quarters of its
last place: the value is `value · 2 ^ exponent`. -/
structure RoundingInterval where
  low : Nat
  value : Nat
  high : Nat
  exponent : Int
  closed : Bool

/-- The interval of `m · 2 ^ q`; below a power of two that is not the least exponent the gap is
half as wide. -/
def RoundingInterval.of (m : Nat) (q : Int) (powerOfTwo : Bool) : RoundingInterval :=
  { low := 4 * m - (if powerOfTwo then 1 else 2), value := 4 * m, high := 4 * m + 2,
    exponent := q - 2, closed := m % 2 == 0 }

/-- Digits and the place of the decimal point: `0.d₁d₂… · 10 ^ point`. -/
structure Digits where
  digits : Nat
  point : Int
  deriving DecidableEq, Repr

/-- A natural number of units `2 ^ t` as a fraction of units `10 ^ e`. -/
def decimalFraction (n : Nat) (t e : Int) : Nat × Nat :=
  (n * twoTo t.toNat * tenTo (-e).toNat, tenTo e.toNat * twoTo (-t).toNat)

/-- Whether `k · 10 ^ e` lies in the interval. -/
def RoundingInterval.contains (i : RoundingInterval) (k : Nat) (e : Int) : Bool :=
  let (low, den) := decimalFraction i.low i.exponent e
  let (high, _) := decimalFraction i.high i.exponent e
  if i.closed then low ≤ k * den && k * den ≤ high else low < k * den && k * den < high

/-- The neighbour of the value on the grid `10 ^ e` that reads back, if one does. -/
def RoundingInterval.onGrid? (i : RoundingInterval) (e : Int) : Option Nat :=
  let (num, den) := decimalFraction i.value i.exponent e
  let k := num / den
  match i.contains k e, i.contains (k + 1) e with
  | true, true =>
    let r := num % den
    if 2 * r < den || (2 * r == den && k % 2 == 0) then some k else some (k + 1)
  | true, false => some k
  | false, true => some (k + 1)
  | false, false => none

/-- The least `p` from `start` on, within `fuel` steps, with the value below `10 ^ p`. -/
def RoundingInterval.point (i : RoundingInterval) (start : Int) : Nat → Int
  | 0 => start
  | fuel + 1 =>
    let (num, den) := decimalFraction i.value i.exponent start
    if num < den then start else i.point (start + 1) fuel

/-- The shortest digits on the grids of `n`, `n + 1`, … digits, at most `fuel` of them. -/
def RoundingInterval.search (i : RoundingInterval) (p : Int) (n : Nat) : Nat → Digits
  | 0 =>
    let (num, den) := decimalFraction i.value i.exponent (p - n)
    ⟨num / den, p⟩
  | fuel + 1 =>
    match i.onGrid? (p - n) with
    | some k => if k = tenTo n then ⟨1, p + 1⟩ else ⟨k, p⟩
    | none => i.search p (n + 1) fuel

/-- The fewest digits that read back as the value. -/
def RoundingInterval.shortest (i : RoundingInterval) : Digits :=
  i.search (i.point (-46) 90) 1 20

end TensorGraph.Number
