import TensorGraph.Yaml.Token.Word

/-!
# Yaml/Token/Scalar — plain, quoted and block scalars

Line breaks inside plain and quoted scalars fold: a single one becomes a space, of several the
first is dropped.  In literal blocks they stay; in folded blocks they fold between lines that do
not start with a blank.
-/

namespace TensorGraph.Yaml

/-- Reads white space between words.  After a line break a tab must not stand before column
`margin`. -/
def readGap (margin : Nat) (g : Gap) (c : Cursor) : Except SyntaxFault (Gap × Cursor) :=
  c.iterate (fun (g : Gap) c =>
    match c.rest with
    | x :: _ =>
      if isBlank x then
        if g.breaks.isEmpty then .ok (.go { g with blanks := g.blanks ++ [x] } c.skip)
        else if x == '\t' && c.column < margin then .error .tabIndent
        else .ok (.go g c.skip)
      else if isBreak x then
        .ok (.go { blanks := [], breaks := g.breaks ++ [c.breakText] } c.skipBreak)
      else .ok (.stop g c)
    | [] => .ok (.stop g c)) g

/-! ## Plain scalars -/

/-- Whether a plain scalar ends before these characters. -/
def endsPlain (flow : Bool) : List Char → Bool
  | [] => true
  | ':' :: rest => atWordEnd rest
  | c :: _ => flow && ",?[]\x7b\x7d".toList.contains c

/-- Reads a plain scalar.  Outside flow collections its lines have to reach column `margin`.  The
white space after it is read too, and returned as the last gap. -/
def readPlain (flow : Bool) (margin : Nat) (c : Cursor) :
    Except SyntaxFault ((List Char × Gap) × Cursor) :=
  c.iterate (fun ((text, gap) : List Char × Gap) c =>
    if !gap.isEmpty && ((!flow && c.column < margin) || c.nextIs '#') then .ok (.stop (text, gap) c)
    else if c.atDocumentMarker then .ok (.stop (text, gap) c)
    else match c.rest with
      | [] => .ok (.stop (text, gap) c)
      | x :: _ =>
        if isBlank x || isBreak x then do
          let (gap, c) ← readGap margin {} c
          return .go (text, gap) c
        else if endsPlain flow c.rest then .ok (.stop (text, gap) c)
        else .ok (.go (text ++ gap.text ++ [x], {}) c.skip)) ([], {})

/-! ## Quoted scalars -/

/-- The character a letter stands for after a backslash. -/
def escapedChar? (c : Char) : Option Char :=
  match c with
  | '0' => some (Char.ofNat 0)
  | 'a' => some (Char.ofNat 0x07)
  | 'b' => some (Char.ofNat 0x08)
  | 't' => some '\t'
  | '\t' => some '\t'
  | 'n' => some '\n'
  | 'v' => some (Char.ofNat 0x0B)
  | 'f' => some (Char.ofNat 0x0C)
  | 'r' => some '\r'
  | 'e' => some (Char.ofNat 0x1B)
  | ' ' => some ' '
  | '"' => some '"'
  | '\'' => some '\''
  | '/' => some '/'
  | '\\' => some '\\'
  | 'N' => some (Char.ofNat 0x85)
  | '_' => some (Char.ofNat 0xA0)
  | 'L' => some (Char.ofNat 0x2028)
  | 'P' => some (Char.ofNat 0x2029)
  | _ => none

/-- The number of hexadecimal digits a letter announces after a backslash. -/
def escapedDigits? (c : Char) : Option Nat :=
  match c with
  | 'x' => some 2
  | 'u' => some 4
  | 'U' => some 8
  | _ => none

/-- Reads an escape, the letter of which is `x`. -/
def readEscape (x : Char) (c : Cursor) : Except SyntaxFault (Char × Cursor) :=
  match escapedChar? x, escapedDigits? x with
  | some y, _ => .ok (y, c.skipN 2)
  | none, some n =>
    let digits := (c.rest.drop 2).take n
    match hexNumber? digits with
    | some code =>
      if digits.length = n ∧ code.isValidChar then .ok (Char.ofNat code, c.skipN (2 + n))
      else .error .escape
    | none => .error .escape
  | none, none => .error .escape

/-- Reads a quoted scalar with both its quotes. -/
def readQuoted (single : Bool) (c : Cursor) : Except SyntaxFault (List Char × Cursor) := do
  let step (text : List Char) (c : Cursor) : Except SyntaxFault (Cursor.Step (List Char)) :=
    if c.atDocumentMarker then .error .documentMarker
    else match c.rest with
      | [] => .error .quotedEnd
      | x :: rest =>
        if isBlank x || isBreak x then do
          let (gap, c) ← readGap 0 {} c
          return .go (text ++ gap.text) c
        else if single then
          if x == '\'' then
            if rest.head? == some '\'' then .ok (.go (text ++ ['\'']) (c.skipN 2))
            else .ok (.stop text c.skip)
          else .ok (.go (text ++ [x]) c.skip)
        else if x == '"' then .ok (.stop text c.skip)
        else if x == '\\' then
          match rest with
          | [] => .error .escape
          | y :: _ =>
            if isBreak y then do
              let (gap, c) ← readGap 0 { breaks := [[]] } c.skip.skipBreak
              return .go (text ++ gap.text) c
            else do
              let (z, c) ← readEscape y c
              return .go (text ++ [z]) c
        else .ok (.go (text ++ [x]) c.skip)
  c.skip.iterate step []

/-! ## Block scalars -/

/-- What becomes of the line breaks at the end of a block scalar. -/
inductive Chomping where
  | strip | clip | keep
  deriving DecidableEq, Repr

/-- The chomping that an indicator names. -/
def chomping? : List Char → Option Chomping
  | '+' :: _ => some .keep
  | '-' :: _ => some .strip
  | _ => none

/-- The indentation that an indicator names; zero is refused. -/
def indentation? : List Char → Except SyntaxFault (Option Nat)
  | c :: _ =>
    if c == '0' then .error .blockHeader
    else if c.isDigit then .ok (some (c.toNat - '0'.toNat))
    else .ok none
  | [] => .ok none

/-- Reads the indicators of a block scalar, in either order, and the end of its line. -/
def readBlockHeader (c : Cursor) : Except SyntaxFault ((Chomping × Option Nat) × Cursor) := do
  let (chomping, indentation, c) ← match chomping? c.rest with
    | some chomping => do
      let indentation ← indentation? (c.rest.drop 1)
      pure (chomping, indentation, c.skipN (if indentation.isSome then 2 else 1))
    | none => do
      match ← indentation? c.rest with
      | none => pure (Chomping.clip, none, c)
      | some n =>
        match chomping? (c.rest.drop 1) with
        | some chomping => pure (chomping, some n, c.skipN 2)
        | none => pure (Chomping.clip, some n, c.skip)
  let c := c.skipWhile isBlank
  let c := if c.nextIs '#' then c.skipLine else c
  if !atLineEnd c.rest then throw .blockHeader
  return ((chomping, indentation), c.skipBreak)

/-- Reads the indentation of the next line that is not empty, up to `indent` if that is known, with
the empty lines before it.  Answers with their line breaks and the widest indentation seen. -/
def readIndentation (indent : Option Nat) (c : Cursor) :
    Except SyntaxFault ((List (List Char) × Nat) × Cursor) :=
  c.iterate (fun ((breaks, widest) : List (List Char) × Nat) c =>
    let spaces := c.rest.takeWhile (· == ' ')
    let c := match indent with
      | none => c.skipN spaces.length
      | some n => c.skipN (min spaces.length (n - c.column))
    let widest := max widest c.column
    if c.nextIs '\t' && indent.all (c.column < ·) then .error .tabIndent
    else if c.head?.any isBreak then .ok (.go (breaks ++ [c.breakText], widest) c.skipBreak)
    else .ok (.stop (breaks, widest) c)) ([], 0)

/-- The text of a block scalar so far: what is read, the break after its last line, the breaks of
the empty lines that follow, and whether the last line started with a blank. -/
structure BlockText where
  text : List Char := []
  lineBreak : List Char := []
  emptyLines : List (List Char) := []
  startsBlank : Bool := false

/-- Adds a line.  Between two lines that do not start with a blank a folded block joins: with a
space, or with the empty lines alone. -/
def BlockText.addLine (b : BlockText) (literal : Bool) (line : List Char) (lineBreak : List Char) :
    BlockText :=
  let startsBlank := line.head?.any isBlank
  let joint :=
    if !literal && !b.startsBlank && !startsBlank && b.lineBreak == ['\n'] then
      if b.emptyLines.isEmpty then [' '] else []
    else b.lineBreak
  { text := b.text ++ joint ++ b.emptyLines.flatten ++ line
    lineBreak := lineBreak, emptyLines := [], startsBlank := startsBlank }

/-- The text when no line follows. -/
def BlockText.finish (b : BlockText) : Chomping → List Char
  | .strip => b.text
  | .clip => b.text ++ b.lineBreak
  | .keep => b.text ++ b.lineBreak ++ b.emptyLines.flatten

/-- Reads a block scalar with its indicator; `parent` is the indentation around it. -/
def readBlock (literal : Bool) (parent : Int) (c : Cursor) :
    Except SyntaxFault (List Char × Cursor) := do
  let ((chomping, indentation), c) ← readBlockHeader c.skip
  let known := indentation.map fun n => (max parent 0 + n).toNat
  let ((breaks, widest), c) ← readIndentation known c
  let indent := known.getD (max (max widest (parent + 1).toNat) 1)
  let (b, c) ← c.iterate (fun (b : BlockText) c =>
    if c.column != indent || c.rest.isEmpty then .ok (.stop b c)
    else do
      let line := c.rest.takeWhile fun x => !isBreak x
      let c := c.skipLine
      let b := b.addLine literal line c.breakText
      let ((breaks, _), c) ← readIndentation (some indent) c.skipBreak
      return .go { b with emptyLines := breaks } c) { emptyLines := breaks }
  return (b.finish chomping, c)

end TensorGraph.Yaml
