import TensorGraph.Number.Binary
import TensorGraph.Number.Literal
import TensorGraph.Text.Base64
import TensorGraph.Yaml.Timestamp

/-!
# Yaml/Scalar — what a scalar means

A plain scalar without a tag is read as null, a truth value, an integer, a floating-point number or
a timestamp if it looks like one, and as text otherwise.  An explicit tag has to agree with that
reading, except that integers are accepted where floating-point numbers are asked for and anything
is accepted as text.  Tags outside this list leave the text alone.  Nodes and files take the reading
of plain scalars as a parameter (`Resolution`).
-/

namespace TensorGraph.Yaml

open Number

/-- The reading of a scalar. -/
inductive Meaning where
  | null
  | bool (value : Bool)
  | int (value : Int)
  | float (value : Binary)
  | timestamp
  | text (value : String)
  deriving DecidableEq, Repr

namespace Meaning

/-- The tag of a reading. -/
def tag : Meaning → String
  | null => "!!null"
  | bool _ => "!!bool"
  | int _ => "!!int"
  | float _ => "!!float"
  | timestamp => "!!timestamp"
  | text _ => "!!str"

end Meaning

/-- The words with a meaning of their own. -/
def meaningfulWords : List (String × Meaning) := [
  ("", .null), ("~", .null), ("null", .null), ("Null", .null), ("NULL", .null),
  ("true", .bool true), ("True", .bool true), ("TRUE", .bool true),
  ("false", .bool false), ("False", .bool false), ("FALSE", .bool false),
  (".nan", .float .nan), (".NaN", .float .nan), (".NAN", .float .nan),
  (".inf", .float (.infinite false)), (".Inf", .float (.infinite false)),
  (".INF", .float (.infinite false)),
  ("+.inf", .float (.infinite false)), ("+.Inf", .float (.infinite false)),
  ("+.INF", .float (.infinite false)),
  ("-.inf", .float (.infinite true)), ("-.Inf", .float (.infinite true)),
  ("-.INF", .float (.infinite true))]

/-- A decimal numeral as a 64-bit floating-point number, unless it is too large for one. -/
def floatOf? (cs : List Char) : Option Binary := do
  let d ← decimal? cs
  BinaryFormat.double.ofDecimal? d.negative d.digits d.count d.power

/-- A numeral that starts with a point; underscores may separate its digits. -/
def pointNumber? (cs : List Char) : Option Binary :=
  if cs.contains '_' && !underscoresOk cs then none else floatOf? (cs.filter (· != '_'))

/-- An integer after a base prefix, which may carry a sign of its own. -/
def prefixedInteger? (base : Nat) (cs : List Char) : Option Int :=
  match integerInBase base cs with
  | .ok i => some i
  | .error _ =>
    match wordInBase base cs with
    | .ok n => some n
    | .error _ => none

/-- The integer that a numeral without underscores writes: signed, or unsigned up to 64 bits. -/
def integer? (cs : List Char) : Option Int :=
  match integerAnyBase cs with
  | .ok i => some i
  | .error _ =>
    match wordAnyBase cs with
    | .ok n => some n
    | .error _ => none

/-- The integer after `0b` or `0o` where the numeral as a whole is none. -/
def laxInteger? (cs : List Char) : Option Int :=
  match cs with
  | '0' :: 'b' :: rest => prefixedInteger? 2 rest
  | '0' :: 'o' :: rest => prefixedInteger? 8 rest
  | '-' :: '0' :: 'b' :: rest => (integerInBase 2 ('-' :: rest)).toOption
  | '-' :: '0' :: 'o' :: rest => (integerInBase 8 ('-' :: rest)).toOption
  | _ => none

/-- The number that a scalar with a digit or a sign in front writes; underscores do not count. -/
def number? (cs : List Char) : Option Meaning :=
  let plain := cs.filter (· != '_')
  match integer? plain with
  | some i => some (.int i)
  | none =>
    match floatOf? plain with
    | some x => some (.float x)
    | none => (laxInteger? plain).map .int

/-- The reading of a plain scalar; `timestamps` says whether timestamps are looked for. -/
def plainMeaning (timestamps : Bool) (s : String) : Meaning :=
  match meaningfulWords.lookup s with
  | some m => m
  | none =>
    match s.toList with
    | '.' :: rest => ((pointNumber? ('.' :: rest)).map Meaning.float).getD (.text s)
    | c :: rest =>
      if c.isDigit || c == '+' || c == '-' then
        if timestamps && isTimestamp (c :: rest) then .timestamp
        else (number? (c :: rest)).getD (.text s)
      else .text s
    | [] => .text s

/-- How the texts of plain scalars are read. -/
class Resolution where
  plain : (timestamps : Bool) → String → Meaning

instance : Resolution := ⟨plainMeaning⟩

/-- What ends decoding at once: a scalar that is not what its tag asks for, or a bad use of merges
and aliases. -/
inductive Unreadable where
  | tag (found text asked : String)
  | base64
  | mergeValue
  | cyclic (anchor : String)
  | excessiveAliases
  deriving DecidableEq, Repr

def Unreadable.message : Unreadable → String
  | tag found text asked =>
    "yaml: cannot decode " ++ found ++ " \x60" ++ text ++ "\x60 as a " ++ asked
  | base64 => "yaml: !!binary value contains invalid base64 data"
  | mergeValue => "yaml: map merge requires map or sequence of maps as the value"
  | cyclic anchor => "yaml: anchor '" ++ anchor ++ "' value contains itself"
  | excessiveAliases => "yaml: document contains excessive aliasing"

/-- The reading of a scalar with an explicit tag. -/
def taggedMeaning [Resolution] (tag : String) (s : String) : Except Unreadable Meaning :=
  if tag = "!!str" then .ok (.text s)
  else if tag = "!!binary" then
    match Text.base64? s with
    | some octets => .ok (.text (Text.ofOctets octets))
    | none => .error .base64
  else if ["!!bool", "!!int", "!!float", "!!null", "!!timestamp"].contains tag then
    let m := Resolution.plain (tag == "!!timestamp") s
    if m.tag = tag then .ok m
    else match tag, m with
      | "!!float", .int i =>
        if i < twoTo 63 then .ok (.float (BinaryFormat.double.ofInt i))
        else .error (.tag m.tag s tag)
      | _, _ => .error (.tag m.tag s tag)
  else .ok (.text s)

end TensorGraph.Yaml
