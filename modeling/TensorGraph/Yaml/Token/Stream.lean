import TensorGraph.Yaml.Token.Scalar

/-!
# Yaml/Token/Stream — the tokens of a text

Indentation opens and closes block collections, and a word turns out to be a key only when a colon
follows it on the same line.  Tokens are therefore emitted in order, and the places where a key was
recognized are noted beside them; `splice` puts the key tokens in afterwards.
-/

namespace TensorGraph.Yaml

/-- A token that may turn out to begin a key, with the place where it starts.  A required key must
get its colon. -/
structure PendingKey where
  token : Nat
  required : Bool
  index : Nat
  line : Nat
  column : Nat

/-- Whether a key can still get its colon here: on the same line, at most 1024 characters on. -/
def PendingKey.isLive (k : PendingKey) (c : Cursor) : Bool :=
  c.line ≤ k.line && c.index ≤ k.index + 1024

/-- A token that begins a key, and whether the key opens a block mapping. -/
structure KeyStart where
  token : Nat
  opensMapping : Bool
  line : Nat

/-- Tokens emitted so far, last first, and what decides about the next ones. -/
structure Scan where
  cursor : Cursor
  emitted : List Token := []
  count : Nat := 0
  starts : List KeyStart := []
  indent : Int := -1
  indents : List Int := []
  pending? : Option PendingKey := none
  outer : List (Option PendingKey) := []
  keyAllowed : Bool := true

namespace Scan

/-- Whether the place is inside a flow collection. -/
def inFlow (s : Scan) : Bool := !s.outer.isEmpty

def emitAt (s : Scan) (lexeme : Lexeme) (line : Nat) : Scan :=
  { s with emitted := ⟨lexeme, line, false⟩ :: s.emitted, count := s.count + 1 }

def emit (s : Scan) (lexeme : Lexeme) : Scan := s.emitAt lexeme s.cursor.line

/-! ## Indentation -/

/-- Closes the block collections in `indents` that are indented beyond `column`. -/
def closeIndents (s : Scan) (column : Int) (line : Nat) : List Int → Scan
  | [] =>
    if column < s.indent then { s.emitAt .blockEnd line with indent := -1, indents := [] } else s
  | i :: rest =>
    if column < s.indent then
      closeIndents { s.emitAt .blockEnd line with indent := i, indents := rest } column line rest
    else s

/-- Closes the block collections that are indented beyond `column`; inside a flow collection
indentation does not count. -/
def unindent (s : Scan) (column : Int) (line : Nat) : Scan :=
  if s.inFlow then s else s.closeIndents column line s.indents

/-- Whether a block collection at `column` opens a new level. -/
def opensLevel (s : Scan) (column : Nat) : Bool := !s.inFlow && s.indent < column

/-- Enters the level of a block collection at `column`. -/
def enterLevel (s : Scan) (column : Nat) : Scan :=
  { s with indents := s.indent :: s.indents, indent := column }

/-- Opens a block collection at the cursor if it starts a new level. -/
def openBlock (s : Scan) (lexeme : Lexeme) : Scan :=
  if s.opensLevel s.cursor.column then (s.emit lexeme).enterLevel s.cursor.column else s

/-- How many collections may be open at once, in blocks and in flow. -/
def maxDepth : Nat := 10000

/-- Whether too many collections are open. -/
def isTooDeep (s : Scan) : Bool :=
  maxDepth < s.outer.length || maxDepth < s.indents.length

/-! ## Keys -/

/-- Gives up the pending key; a required one cannot be given up. -/
def dropKey (s : Scan) : Except SyntaxFault Scan :=
  match s.pending? with
  | some k => if k.required then .error .missingColon else .ok { s with pending? := none }
  | none => .ok s

/-- Notes that the next token may begin a key, where keys are allowed. -/
def noteKey (s : Scan) : Except SyntaxFault Scan :=
  if s.keyAllowed then do
    let c := s.cursor
    let key : PendingKey :=
      { token := s.count, required := !s.inFlow && s.indent == c.column
        index := c.index, line := c.line, column := c.column }
    return { ← s.dropKey with pending? := some key }
  else .ok s

/-! ## Space between tokens -/

/-- Reads a comment, and those on the lines after it. -/
def skipComments (c : Cursor) : Except SyntaxFault Cursor := do
  let (_, c) ← c.iterate (fun (_ : Unit) c =>
    let lineEnd := c.skipLine
    do
      let (_, next) ← readGap 0 {} lineEnd
      if next.nextIs '#' then return .go () next else return .stop () lineEnd) ()
  return c

/-- Reads blanks, comments and line breaks before a token.  Outside flow collections a line break
allows a key; a tab is a blank only where no key is allowed. -/
def skipSpace (s : Scan) : Except SyntaxFault Scan := do
  let flow := s.inFlow
  let (keyAllowed, c) ← s.cursor.iterate (fun (keyAllowed : Bool) c => do
    let c := c.skipWhile fun x => x == ' ' || ((flow || !keyAllowed) && x == '\t')
    let c ← if c.nextIs '#' then skipComments c else pure c
    if c.head?.any isBreak then return .go (keyAllowed || !flow) c.skipBreak
    else return .stop keyAllowed c) s.keyAllowed
  return { s with keyAllowed := keyAllowed, cursor := c }

/-- Reads a comment that follows a token on its line. -/
def skipLineComment (s : Scan) : Scan :=
  if s.cursor.pastBreak then s
  else
    let c := s.cursor.skipWhile isBlank
    if c.nextIs '#' then { s with cursor := c.skipLine } else s

/-! ## Tokens -/

/-- Leaves all block collections; no key may follow on the line. -/
def leaveBlocks (s : Scan) (line : Nat) : Except SyntaxFault Scan := do
  let s ← (s.unindent (-1) line).dropKey
  return { s with keyAllowed := false }

/-- Ends the stream, on a line of its own. -/
def endStream (s : Scan) : Except SyntaxFault Scan := do
  let line := if s.cursor.column = 0 then s.cursor.line else s.cursor.line + 1
  let s ← s.leaveBlocks line
  return s.emitAt .streamEnd line

def directive (s : Scan) : Except SyntaxFault Scan := do
  let s ← s.leaveBlocks s.cursor.line
  let (lexeme, c) ← readDirective s.cursor
  return { s.emit lexeme with cursor := c }

def documentMarker (s : Scan) (lexeme : Lexeme) : Except SyntaxFault Scan := do
  let s ← s.leaveBlocks s.cursor.line
  return { s.emit lexeme with cursor := s.cursor.skipN 3 }

/-- An indicator of one character. -/
def indicator (s : Scan) (lexeme : Lexeme) : Scan :=
  { s.emit lexeme with cursor := s.cursor.skip }

/-- An opening bracket may begin a key, and a key may follow it. -/
def openFlow (s : Scan) (lexeme : Lexeme) : Except SyntaxFault Scan := do
  let s ← s.noteKey
  return { s with pending? := none, outer := s.pending? :: s.outer, keyAllowed := true }.indicator
    lexeme

/-- A closing bracket; no key may follow it. -/
def closeFlow (s : Scan) (lexeme : Lexeme) : Except SyntaxFault Scan := do
  let s ← s.dropKey
  let s := match s.outer with
    | k :: outer => { s with pending? := k, outer := outer }
    | [] => s
  return { s with keyAllowed := false }.indicator lexeme

def flowEntry (s : Scan) : Except SyntaxFault Scan := do
  return { ← s.dropKey with keyAllowed := true }.indicator .flowEntry

def blockEntry (s : Scan) : Except SyntaxFault Scan := do
  if !s.inFlow && !s.keyAllowed then throw .entryPlace
  return { ← (s.openBlock .blockSequenceStart).dropKey with keyAllowed := true }.indicator
    .blockEntry

def explicitKey (s : Scan) : Except SyntaxFault Scan := do
  if !s.inFlow && !s.keyAllowed then throw .keyPlace
  let s ← (s.openBlock .blockMappingStart).dropKey
  return { s with keyAllowed := !s.inFlow }.indicator .key

/-- A colon: what is pending becomes a key, or else the colon follows an explicit key. -/
def colon (s : Scan) : Except SyntaxFault Scan := do
  match s.pending? with
  | some k =>
    if k.isLive s.cursor then
      let opens := s.opensLevel k.column
      let start : KeyStart := ⟨k.token, opens, k.line⟩
      let s := { s with starts := start :: s.starts, pending? := none, keyAllowed := false }
      return (if opens then s.enterLevel k.column else s).indicator .value
    else if k.required then throw .missingColon
    else noKey { s with pending? := none }
  | none => noKey s
where
  noKey (s : Scan) : Except SyntaxFault Scan := do
    if !s.inFlow && !s.keyAllowed then throw .valuePlace
    return { s.openBlock .blockMappingStart with keyAllowed := !s.inFlow }.indicator .value

/-- A word that may begin a key, read by `read`. -/
def word (s : Scan) (read : Cursor → Except SyntaxFault (Lexeme × Cursor)) :
    Except SyntaxFault Scan := do
  let s ← s.noteKey
  let (lexeme, c) ← read s.cursor
  return { s.emit lexeme with cursor := c, keyAllowed := false }

def anchorWord (make : String → Lexeme) (c : Cursor) : Except SyntaxFault (Lexeme × Cursor) := do
  let (name, c) ← readAnchor c
  return (make name, c)

def quotedWord (single : Bool) (c : Cursor) : Except SyntaxFault (Lexeme × Cursor) := do
  let (text, c) ← readQuoted single c
  return (.scalar (String.ofList text) true, c)

def blockScalar (s : Scan) (literal : Bool) : Except SyntaxFault Scan := do
  let s ← s.dropKey
  let (text, c) ← readBlock literal s.indent s.cursor
  return { s.emit (.scalar (String.ofList text) true) with cursor := c, keyAllowed := true }

/-- A plain scalar; a key may follow it on a later line. -/
def plainScalar (s : Scan) : Except SyntaxFault Scan := do
  let s ← s.noteKey
  let ((text, gap), c) ← readPlain s.inFlow (s.indent + 1).toNat s.cursor
  return { s.emit (.scalar (String.ofList text) false) with
    cursor := c, keyAllowed := !gap.breaks.isEmpty }

/-- Whether a character only ever starts a plain scalar. -/
def isPlainStart (c : Char) : Bool :=
  !(isBlank c || isBreak c || c.toNat == 0x60
    || "-?:,[]\x7b\x7d#&*!|>'\"%@".toList.contains c)

/-- The token that starts with `x`, before the characters `rest`. -/
def token (s : Scan) (x : Char) (rest : List Char) : Except SyntaxFault Scan :=
  let flow := s.inFlow
  match x with
  | '[' => s.openFlow .flowSequenceStart
  | '\x7b' => s.openFlow .flowMappingStart
  | ']' => s.closeFlow .flowSequenceEnd
  | '\x7d' => s.closeFlow .flowMappingEnd
  | ',' => s.flowEntry
  | '*' => s.word (anchorWord .reference)
  | '&' => s.word (anchorWord .anchor)
  | '!' => s.word readTag
  | '\'' => s.word (quotedWord true)
  | '"' => s.word (quotedWord false)
  | '-' =>
    if atWordEnd rest then s.blockEntry else s.plainScalar
  | '?' =>
    if flow || atWordEnd rest then s.explicitKey else s.plainScalar
  | ':' =>
    if flow || atWordEnd rest then s.colon else s.plainScalar
  | '|' => if flow then .error .tokenStart else s.blockScalar true
  | '>' => if flow then .error .tokenStart else s.blockScalar false
  | x => if isPlainStart x then s.plainScalar else .error .tokenStart

/-- Reads the next token, with the space before it and a comment after it. -/
def next (s : Scan) : Except SyntaxFault Scan := do
  let line := s.cursor.line
  let s ← s.skipSpace
  let s := s.unindent s.cursor.column line
  let c := s.cursor
  match c.rest with
  | [] => s.endStream
  | x :: rest =>
    if c.column == 0 && x == '%' then s.directive
    else if c.column == 0 && atMarker '-' c.rest then s.documentMarker .documentStart
    else if c.column == 0 && atMarker '.' c.rest then s.documentMarker .documentEnd
    else
      let s ← s.token x rest
      if s.isTooDeep then throw .tooDeep
      match s.emitted with
      | ⟨.blockEntry, _, _⟩ :: _ => return s
      | _ => return s.skipLineComment

end Scan

/-- The tokens of a text as far as it could be read, and the fault that stopped the reading. -/
structure TokenStream where
  tokens : List Token
  fault? : Option SyntaxFault

/-- Puts key tokens before the tokens that begin a key; `n` is the number of the first token.  The
key starts come in increasing order. -/
def splice (n : Nat) : List KeyStart → List Token → List Token
  | _, [] => []
  | starts, t :: ts =>
    match starts with
    | k :: more =>
      if k.token = n then
        (if k.opensMapping then [⟨.blockMappingStart, k.line, false⟩] else []) ++
          ⟨.key, k.line, false⟩ :: t :: splice (n + 1) more ts
      else t :: splice (n + 1) starts ts
    | [] => t :: splice (n + 1) [] ts

namespace Scan

/-- The tokens emitted, marked where they are undecided, with their keys. -/
def finish (s : Scan) (fault? : Option SyntaxFault) : TokenStream :=
  let undecided := (s.pending? :: s.outer).filterMap fun k? =>
    (k?.filter (·.isLive s.cursor)).map (·.token)
  let tokens := s.emitted.reverse.zipIdx.map fun (t, n) =>
    { t with undecided := fault?.isSome && undecided.contains n }
  let starts := s.starts.mergeSort fun a b => a.token ≤ b.token
  ⟨splice 0 starts tokens, fault?⟩

/-- Reads all tokens from here on. -/
def run (s : Scan) : TokenStream :=
  match s.next with
  | .error e => s.finish (some e)
  | .ok s' =>
    if s'.cursor.rest.length < s.cursor.rest.length then run s' else s'.finish none
termination_by s.cursor.rest.length

end Scan

/-- A text without a byte-order mark at its start. -/
def withoutMark : List Char → List Char
  | c :: cs => if c.toNat == 0xFEFF then cs else c :: cs
  | [] => []

/-- The tokens of a text. -/
def TokenStream.ofText (text : String) : TokenStream :=
  let cs := withoutMark text.toList
  if cs.all isAllowed then Scan.run { cursor := { rest := cs } }
  else ⟨[], some .character⟩

end TensorGraph.Yaml
