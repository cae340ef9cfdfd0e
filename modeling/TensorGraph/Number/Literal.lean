import TensorGraph.Number.Binary

/-!
# Number/Literal — numerals as they are written by hand

Integers carry an optional sign and, where the base is left open, a prefix that names it; digits
may then be set apart by single underscores.  Decimals carry an optional fraction and exponent.
-/

namespace TensorGraph.Number

/-- Why a numeral is refused. -/
inductive NumeralFault where
  | malformed
  | outOfRange
  deriving DecidableEq, Repr

/-- The value of a digit or letter, in bases up to 36. -/
def digitValue? (c : Char) : Option Nat :=
  if c.isDigit then some (c.toNat - '0'.toNat)
  else if c.isLower then some (c.toNat - 'a'.toNat + 10)
  else if c.isUpper then some (c.toNat - 'A'.toNat + 10)
  else none

/-- The greatest 64-bit word. -/
def maxWord : Nat := twoTo 64 - 1

/-- The word written by a run of digits, read from `acc` on.  Where `loose` holds, underscores
are passed over.  A value beyond a word is reported at the digit that exceeds it. -/
def readWord (base : Nat) (loose : Bool) (acc : Nat) : List Char → Except NumeralFault Nat
  | [] => .ok acc
  | c :: cs =>
    if loose && c == '_' then readWord base loose acc cs
    else match digitValue? c with
      | none => .error .malformed
      | some d =>
        if base ≤ d then .error .malformed
        else if maxWord < acc * base + d then .error .outOfRange
        else readWord base loose (acc * base + d) cs

/-- What the last character was, while underscores are checked. -/
inductive Separated where
  | start | digit | underscore | other
  deriving DecidableEq

/-- Whether each underscore stands between two digits. -/
def underscoresFrom (hex : Bool) (last : Separated) : List Char → Bool
  | [] => last != .underscore
  | c :: cs =>
    let isHexLetter := ('a' ≤ c && c ≤ 'f') || ('A' ≤ c && c ≤ 'F')
    if c.isDigit || (hex && isHexLetter) then underscoresFrom hex .digit cs
    else if c == '_' then last == .digit && underscoresFrom hex .underscore cs
    else last != .underscore && underscoresFrom hex .other cs

/-- The part of a numeral after its sign. -/
def unsigned : List Char → List Char
  | '+' :: cs => cs
  | '-' :: cs => cs
  | cs => cs

/-- Whether the underscores of a numeral only separate digits; a base prefix counts as a digit. -/
def underscoresOk (cs : List Char) : Bool :=
  match unsigned cs with
  | '0' :: p :: rest =>
    if p == 'x' || p == 'X' then underscoresFrom true .digit rest
    else if p == 'b' || p == 'B' || p == 'o' || p == 'O' then underscoresFrom false .digit rest
    else underscoresFrom false .start ('0' :: p :: rest)
  | rest => underscoresFrom false .start rest

/-- The base that a prefix names, and the digits after it: `0b`, `0o`, `0x` before at least one
character, a bare leading zero for base eight, and ten otherwise. -/
def detectBase : List Char → Nat × List Char
  | '0' :: p :: c :: rest =>
    if p == 'b' || p == 'B' then (2, c :: rest)
    else if p == 'o' || p == 'O' then (8, c :: rest)
    else if p == 'x' || p == 'X' then (16, c :: rest)
    else (8, p :: c :: rest)
  | '0' :: rest => (8, rest)
  | cs => (10, cs)

/-- A word in the base that its prefix names. -/
def wordAnyBase (cs : List Char) : Except NumeralFault Nat := do
  if cs.isEmpty then throw .malformed
  let (base, digits) := detectBase cs
  let n ← readWord base true 0 digits
  if cs.contains '_' && !underscoresOk cs then throw .malformed
  return n

/-- A word in a fixed base. -/
def wordInBase (base : Nat) (cs : List Char) : Except NumeralFault Nat :=
  if cs.isEmpty then .error .malformed else readWord base false 0 cs

/-- A signed 64-bit integer, its magnitude read by `word`. -/
def signedBy (word : List Char → Except NumeralFault Nat) (cs : List Char) :
    Except NumeralFault Int := do
  let n ← word (unsigned cs)
  if cs.head? == some '-' then
    if twoTo 63 < n then throw .outOfRange else return -n
  else if twoTo 63 ≤ n then throw .outOfRange else return n

/-- A signed 64-bit integer in the base that its prefix names. -/
def integerAnyBase (cs : List Char) : Except NumeralFault Int := signedBy wordAnyBase cs

/-- A signed 64-bit integer in a fixed base. -/
def integerInBase (base : Nat) (cs : List Char) : Except NumeralFault Int :=
  signedBy (wordInBase base) cs

/-- A decimal numeral: `± digits · 10 ^ power`, written with `count` digits. -/
structure Decimal where
  negative : Bool
  digits : Nat
  count : Nat
  power : Int
  deriving DecidableEq, Repr

/-- The value of a list of digits. -/
def digitsValue (cs : List Char) : Nat := cs.foldl (fun n c => n * 10 + (c.toNat - '0'.toNat)) 0

/-- The exponent part of a decimal numeral: nothing, or `e`, an optional sign and digits. -/
def exponent? : List Char → Option Int
  | [] => some 0
  | c :: cs =>
    let digits := unsigned cs
    if (c == 'e' || c == 'E') && !digits.isEmpty && digits.all Char.isDigit then
      let n : Int := digitsValue digits
      some (if cs.head? == some '-' then -n else n)
    else none

/-- The numeral without its sign: digits, an optional point with digits, an optional exponent, and
at least one digit before the exponent. -/
def decimalBody? (negative : Bool) (cs : List Char) : Option Decimal :=
  let whole := cs.takeWhile Char.isDigit
  let rest := cs.dropWhile Char.isDigit
  let (fraction, rest) := match rest with
    | '.' :: r => (r.takeWhile Char.isDigit, r.dropWhile Char.isDigit)
    | r => ([], r)
  let ds := whole ++ fraction
  if ds.isEmpty then none
  else (exponent? rest).map fun e =>
    ⟨negative, digitsValue ds, (ds.dropWhile (· == '0')).length, e - fraction.length⟩

/-- A decimal numeral with an optional sign. -/
def decimal? (cs : List Char) : Option Decimal :=
  decimalBody? (cs.head? == some '-') (unsigned cs)

end TensorGraph.Number
