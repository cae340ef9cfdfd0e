/-!
# Yaml/Cursor — a place in a text

A cursor is the text not yet read together with its position: how many characters, lines and
columns lie before it.  `Cursor.iterate` is the one loop of this library that runs over a text: it
repeats a step that has to shorten the rest.
-/

namespace TensorGraph.Yaml

/-- The characters that end a line. -/
def isBreak (c : Char) : Bool :=
  c == '\n' || c == '\r' || c.toNat == 0x85 || c.toNat == 0x2028 || c.toNat == 0x2029

/-- The characters that separate words on a line. -/
def isBlank (c : Char) : Bool := c == ' ' || c == '\t'

/-- The characters a text may hold. -/
def isAllowed (c : Char) : Bool :=
  let n := c.toNat
  n == 0x09 || n == 0x0A || n == 0x0D || (0x20 ≤ n && n ≤ 0x7E) || n == 0x85
    || (0xA0 ≤ n && n ≤ 0xD7FF) || (0xE000 ≤ n && n ≤ 0xFFFD) || 0x10000 ≤ n

/-- The characters of anchors and tag handles. -/
def isNameChar (c : Char) : Bool := c.isAlphanum || c == '_' || c == '-'

/-- Whether a word ends before these characters: at a blank, at a line break or with the text. -/
def atWordEnd : List Char → Bool
  | [] => true
  | c :: _ => isBlank c || isBreak c

/-- Whether a line ends before these characters. -/
def atLineEnd : List Char → Bool
  | [] => true
  | c :: _ => isBreak c

/-- Whether a marker of three characters that bounds documents stands here. -/
def atMarker (mark : Char) : List Char → Bool
  | a :: b :: c :: rest => a == mark && b == mark && c == mark && atWordEnd rest
  | _ => false

/-- The unread text and its position.  `pastBreak` says that only blanks were read since the last
line break. -/
structure Cursor where
  rest : List Char
  index : Nat := 0
  line : Nat := 0
  column : Nat := 0
  pastBreak : Bool := false

namespace Cursor

/-- The next character. -/
def head? (c : Cursor) : Option Char := c.rest.head?

/-- Whether the next character is `x`. -/
def nextIs (c : Cursor) (x : Char) : Bool := c.rest.head? == some x

/-- Reads one character that does not end a line. -/
def skip (c : Cursor) : Cursor :=
  match c.rest with
  | [] => c
  | x :: rest =>
    { c with
      rest := rest, index := c.index + 1, column := c.column + 1
      pastBreak := c.pastBreak && isBlank x }

/-- Reads several characters that do not end a line. -/
def skipN (c : Cursor) : Nat → Cursor
  | 0 => c
  | n + 1 => c.skip.skipN n

/-- Reads the characters of one class. -/
def skipWhile (c : Cursor) (p : Char → Bool) : Cursor := c.skipN (c.rest.takeWhile p).length

/-- Reads to the end of the line. -/
def skipLine (c : Cursor) : Cursor := c.skipWhile fun x => !isBreak x

/-- Reads one line break. -/
def skipBreak (c : Cursor) : Cursor :=
  let next (rest : List Char) (n : Nat) : Cursor :=
    { rest := rest, index := c.index + n, line := c.line + 1, column := 0, pastBreak := true }
  match c.rest with
  | '\r' :: '\n' :: rest => next rest 2
  | x :: rest => if isBreak x then next rest 1 else c
  | [] => c

/-- What a line break stands for in a scalar: the two separators stand for themselves, all others
for a line feed. -/
def breakText (c : Cursor) : List Char :=
  match c.rest with
  | x :: _ => if x.toNat == 0x2028 || x.toNat == 0x2029 then [x] else ['\n']
  | [] => []

/-- Whether a document marker stands at the start of this line. -/
def atDocumentMarker (c : Cursor) : Bool :=
  c.column == 0 && (atMarker '-' c.rest || atMarker '.' c.rest)

/-- What a step of a loop leaves: a state and a cursor, and whether to go on. -/
inductive Step (σ : Type) where
  | go (state : σ) (cursor : Cursor)
  | stop (state : σ) (cursor : Cursor)

/-- Repeats a step until it stops; a step that does not shorten the rest is the last one. -/
def iterate {σ ε : Type} (step : σ → Cursor → Except ε (Step σ)) (state : σ) (c : Cursor) :
    Except ε (σ × Cursor) :=
  match step state c with
  | .error e => .error e
  | .ok (.stop state' c') => .ok (state', c')
  | .ok (.go state' c') =>
    if c'.rest.length < c.rest.length then iterate step state' c' else .ok (state', c')
termination_by c.rest.length

end Cursor

/-- White space between two words of a scalar: blanks on one line, or the line breaks in it. -/
structure Gap where
  blanks : List Char := []
  breaks : List (List Char) := []

namespace Gap

def isEmpty (g : Gap) : Bool := g.blanks.isEmpty && g.breaks.isEmpty

/-- The text a gap stands for: blanks stand for themselves, a single line feed for a space, and of
several breaks the first is dropped if it is a line feed. -/
def text (g : Gap) : List Char :=
  match g.breaks with
  | [] => g.blanks
  | ['\n'] :: [] => [' ']
  | ['\n'] :: more => more.flatten
  | breaks => breaks.flatten

end Gap

end TensorGraph.Yaml
