import TensorGraph.Text.Printable

/-!
# Text/Quoted — texts between double quotes, as messages show them

Printable characters stand for themselves; the quote and the backslash are escaped, the usual
controls have letters, and every other character is written by its code: two hexadecimal digits
below the end of ASCII, four in the first plane, eight beyond it.
-/

namespace TensorGraph.Text

/-- The lower-case hexadecimal digits of `n`, with leading zeros up to `width`. -/
def hexDigits (width n : Nat) : List Char :=
  let ds := Nat.toDigits 16 n
  List.replicate (width - ds.length) '0' ++ ds

/-- The letter that stands for a control character after a backslash. -/
def controlLetter? (c : Char) : Option Char :=
  match c.toNat with
  | 0x07 => some 'a'
  | 0x08 => some 'b'
  | 0x09 => some 't'
  | 0x0A => some 'n'
  | 0x0B => some 'v'
  | 0x0C => some 'f'
  | 0x0D => some 'r'
  | _ => none

/-- The escape that names a character by its code. -/
def codeEscape (n : Nat) : List Char :=
  if n < 0x80 then '\\' :: 'x' :: hexDigits 2 n
  else if n < 0x10000 then '\\' :: 'u' :: hexDigits 4 n
  else '\\' :: 'U' :: hexDigits 8 n

/-- One character as it stands between quotes. -/
def quotedChar (c : Char) : List Char :=
  if c == '"' || c == '\\' then ['\\', c]
  else if isPrintable c then [c]
  else match controlLetter? c with
    | some l => ['\\', l]
    | none => codeEscape c.toNat

/-- A text between double quotes. -/
def quote (s : String) : String :=
  String.ofList ('"' :: s.toList.flatMap quotedChar ++ ['"'])

/-- Quoted texts between brackets, separated by spaces. -/
def quoteList (ss : List String) : String :=
  "[" ++ " ".intercalate (ss.map quote) ++ "]"

end TensorGraph.Text
