import TensorGraph.Number.Binary
import TensorGraph.Number.Shortest

/-!
# Number/Single — 32-bit floating-point numbers and their text

A number is its 32 bits.  Its text has the fewest digits that read back; it is positional while the
decimal exponent lies between −4 and 5, and scientific with at least two exponent digits beyond.
-/

namespace TensorGraph.Number

/-- A 32-bit floating-point number, given by its bits. -/
structure Single where
  bits : UInt32
  deriving DecidableEq, Repr, Inhabited

namespace Single

def negative (x : Single) : Bool := x.bits.toNat / twoTo 31 == 1

def exponentField (x : Single) : Nat := x.bits.toNat / twoTo 23 % twoTo 8

def fraction (x : Single) : Nat := x.bits.toNat % twoTo 23

def isNaN (x : Single) : Bool := x.exponentField == 255 && x.fraction != 0

/-- The value the bits denote. -/
def toBinary (x : Single) : Binary :=
  match x.exponentField with
  | 0 => .finite x.negative x.fraction (-149)
  | 255 => if x.fraction = 0 then .infinite x.negative else .nan
  | e => .finite x.negative (twoTo 23 + x.fraction) (e - 150)

/-- The bits of a value that is already in the 32-bit format. -/
def encode : Binary → Single
  | .finite negative m e =>
    let magnitude := if m < twoTo 23 then m else (e + 150).toNat * twoTo 23 + (m - twoTo 23)
    ⟨UInt32.ofNat ((if negative then twoTo 31 else 0) + magnitude)⟩
  | .infinite negative => ⟨UInt32.ofNat ((if negative then twoTo 31 else 0) + 255 * twoTo 23)⟩
  | .nan => ⟨UInt32.ofNat (255 * twoTo 23 + twoTo 22)⟩

/-- The nearest 32-bit number to a value. -/
def ofBinary (x : Binary) : Single := encode (x.roundTo .single)

/-- Decimal digits as text: positional when the decimal exponent is at least −4 and less than 6,
scientific otherwise. -/
def digitsText (d : Digits) : String :=
  let ds := Nat.toDigits 10 d.digits
  let exponent := d.point - 1
  let chars : List Char :=
    if exponent < -4 || 6 ≤ exponent then
      let mantissa := match ds with
        | [x] => [x]
        | x :: xs => x :: '.' :: xs
        | [] => []
      let e := Nat.toDigits 10 exponent.natAbs
      mantissa ++ 'e' :: (if exponent < 0 then '-' else '+') ::
        (if e.length < 2 then '0' :: e else e)
    else if d.point ≤ 0 then '0' :: '.' :: List.replicate (-d.point).toNat '0' ++ ds
    else if ds.length ≤ d.point.toNat then ds ++ List.replicate (d.point.toNat - ds.length) '0'
    else ds.take d.point.toNat ++ '.' :: ds.drop d.point.toNat
  String.ofList chars

/-- The text of a number. -/
def text (x : Single) : String :=
  match x.toBinary with
  | .nan => "NaN"
  | .infinite negative => if negative then "-Inf" else "+Inf"
  | .finite negative m e =>
    let sign := if negative then "-" else ""
    if m = 0 then sign ++ "0"
    else sign ++ digitsText (RoundingInterval.of m e (m == twoTo 23 && e != -149)).shortest

end Single

end TensorGraph.Number
