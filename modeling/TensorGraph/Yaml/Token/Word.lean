import TensorGraph.Number.Binary
import TensorGraph.Yaml.Cursor
import TensorGraph.Yaml.Token

/-!
# Yaml/Token/Word — anchors, tags and directives
-/

namespace TensorGraph.Yaml

/-- The characters that may follow an anchor directly. -/
def endsAnchor : List Char → Bool
  | [] => true
  | c :: _ =>
    isBlank c || isBreak c || c == '?' || c == ':' || c == ',' || c == ']' || c == '\x7d'
      || c == '%' || c == '@' || c.toNat == 0x60

/-- The name after an anchor or alias indicator. -/
def readAnchor (c : Cursor) : Except SyntaxFault (String × Cursor) :=
  let c := c.skip
  let name := c.rest.takeWhile isNameChar
  let c := c.skipN name.length
  if name.isEmpty || !endsAnchor c.rest then .error .anchorName else .ok (String.ofList name, c)

/-- The value of a hexadecimal digit. -/
def hexValue? (c : Char) : Option Nat :=
  if c.isDigit then some (c.toNat - '0'.toNat)
  else if 'a' ≤ c && c ≤ 'f' then some (c.toNat - 'a'.toNat + 10)
  else if 'A' ≤ c && c ≤ 'F' then some (c.toNat - 'A'.toNat + 10)
  else none

/-- The value of hexadecimal digits. -/
def hexNumber? (cs : List Char) : Option Nat :=
  cs.foldlM (fun n c => (hexValue? c).map (n * 16 + ·)) 0

/-- The octet written after a percent sign. -/
def octet? (c : Cursor) : Option (Nat × Cursor) :=
  match c.rest with
  | '%' :: a :: b :: _ => (hexNumber? [a, b]).map (·, c.skipN 3)
  | _ => none

/-- The number of octets of a character that starts with `lead`. -/
def octetCount (lead : Nat) : Nat :=
  if lead < 0x80 then 1
  else if 0xC0 ≤ lead && lead < 0xE0 then 2
  else if 0xE0 ≤ lead && lead < 0xF0 then 3
  else if 0xF0 ≤ lead && lead < 0xF8 then 4
  else 0

/-- Reads `n` more octets of a character whose bits so far are `bits`. -/
def readOctets (c : Cursor) (bits : Nat) : Nat → Except SyntaxFault (Nat × Cursor)
  | 0 => .ok (bits, c)
  | n + 1 =>
    match octet? c with
    | some (o, c') =>
      if 0x80 ≤ o && o < 0xC0 then readOctets c' (bits * 64 + (o - 0x80)) n else .error .tagText
    | none => .error .tagText

/-- Reads one character written as percent-escaped octets. -/
def readEscapedChar (c : Cursor) : Except SyntaxFault (Char × Cursor) :=
  match octet? c with
  | none => .error .tagText
  | some (lead, c') =>
    match octetCount lead with
    | 0 => .error .tagText
    | 1 => .ok (Char.ofNat lead, c')
    | n + 1 => do
      let (code, c'') ← readOctets c' (lead % Number.twoTo (6 - n)) n
      return (Char.ofNat code, c'')

/-- The characters a tag is made of. -/
def isTagChar (c : Char) : Bool := isNameChar c || ";/?:@&=+$,.!~*'()[]%".toList.contains c

/-- Reads the characters of a tag. -/
def readTagChars (c : Cursor) : Except SyntaxFault (List Char × Cursor) :=
  c.iterate (fun (text : List Char) c =>
    match c.rest with
    | '%' :: _ => do
      let (x, c') ← readEscapedChar c
      return .go (text ++ [x]) c'
    | x :: _ => if isTagChar x then .ok (.go (text ++ [x]) c.skip) else .ok (.stop text c)
    | [] => .ok (.stop text c)) []

/-- Reads an exclamation mark, name characters and a second mark if there is one. -/
def readTagHandle (c : Cursor) : List Char × Cursor :=
  let c := c.skip
  let name := c.rest.takeWhile isNameChar
  let c := c.skipN name.length
  if c.nextIs '!' then ('!' :: name ++ ['!'], c.skip) else ('!' :: name, c)

/-- The handle and the rest of a tag in angle brackets, which has no handle. -/
def readVerbatimTag (c : Cursor) : Except SyntaxFault (Lexeme × Cursor) := do
  let (text, c) ← readTagChars (c.skipN 2)
  if text.isEmpty || !c.nextIs '>' then throw .tagText
  return (.tag "" (String.ofList text), c.skip)

/-- The handle and the rest of a tag.  Without a second mark the handle is the mark alone, and a
mark with nothing after it is a tag of its own. -/
def readShortTag (c : Cursor) : Except SyntaxFault (Lexeme × Cursor) := do
  let (handle, c) := readTagHandle c
  let (text, c) ← readTagChars c
  if 1 < handle.length && handle.getLast? == some '!' then
    if text.isEmpty then throw .tagText
    return (.tag (String.ofList handle) (String.ofList text), c)
  else
    let suffix := handle.drop 1 ++ text
    if suffix.isEmpty then return (.tag "" "!", c)
    return (.tag "!" (String.ofList suffix), c)

/-- Reads a tag, after which a word has to end. -/
def readTag (c : Cursor) : Except SyntaxFault (Lexeme × Cursor) := do
  let (lexeme, c) ← if (c.rest.drop 1).head? == some '<' then readVerbatimTag c else readShortTag c
  if atWordEnd c.rest then return (lexeme, c) else throw .tagText

/-- Reads a version number of at most two digits. -/
def readVersionNumber (c : Cursor) : Except SyntaxFault (Nat × Cursor) :=
  let digits := c.rest.takeWhile Char.isDigit
  if digits.isEmpty || 2 < digits.length then .error .directive
  else .ok (digits.foldl (fun n d => n * 10 + (d.toNat - '0'.toNat)) 0, c.skipN digits.length)

/-- Reads the version after its directive name. -/
def readVersion (c : Cursor) : Except SyntaxFault (Lexeme × Cursor) := do
  let (major, c) ← readVersionNumber (c.skipWhile isBlank)
  if !c.nextIs '.' then throw .directive
  let (minor, c) ← readVersionNumber c.skip
  return (.version major minor, c)

/-- Reads a handle and what it stands for, after the directive name. -/
def readTagDirective (c : Cursor) : Except SyntaxFault (Lexeme × Cursor) := do
  let c := c.skipWhile isBlank
  if !c.nextIs '!' then throw .directive
  let (handle, c) := readTagHandle c
  if handle != ['!'] && handle.getLast? != some '!' then throw .directive
  if !c.head?.any isBlank then throw .directive
  let (replacement, c) ← readTagChars (c.skipWhile isBlank)
  if replacement.isEmpty || !atWordEnd c.rest then throw .directive
  return (.tagHandle (String.ofList handle) (String.ofList replacement), c)

/-- Reads a directive with its line; a comment may follow it. -/
def readDirective (c : Cursor) : Except SyntaxFault (Lexeme × Cursor) := do
  let c := c.skip
  let name := c.rest.takeWhile isNameChar
  let c := c.skipN name.length
  if name.isEmpty || !atWordEnd c.rest then throw .directive
  let (lexeme, c) ←
    if name == "YAML".toList then readVersion c
    else if name == "TAG".toList then readTagDirective c
    else throw .directive
  let c := c.skipWhile isBlank
  let c := if c.nextIs '#' then c.skipLine else c
  if !atLineEnd c.rest then throw .directive
  return (lexeme, c.skipBreak)

end TensorGraph.Yaml
