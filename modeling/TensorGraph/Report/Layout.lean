/-!
# Report/Layout — titles, paragraphs and tables as text

    ┌───────┬───────────┐
    │  Key  │   Value   │
    ├───────┼───────────┤
    │   one │ 1         │
    └───────┴───────────┘

A column is four characters wider than its longest text.  Headers are centred, the first column is
set to the right and the others to the left.  Reports are set in any style (`Style`); this one is
the instance.
-/

namespace TensorGraph.Report

/-- Splits characters at line breaks. -/
def splitLines : List Char → List (List Char)
  | [] => [[]]
  | c :: cs =>
    if c == '\n' then [] :: splitLines cs
    else match splitLines cs with
      | [] => [[c]]
      | line :: lines => (c :: line) :: lines

/-- Characters with tabs as four spaces, and without the carriage return of a line break. -/
def settle : List Char → List Char
  | [] => []
  | '\r' :: '\n' :: cs => '\n' :: settle cs
  | '\t' :: cs => ' ' :: ' ' :: ' ' :: ' ' :: settle cs
  | c :: cs => c :: settle cs

/-- The lines of a text. -/
def linesOf (text : String) : List String := (splitLines (settle text.toList)).map String.ofList

/-- A run of spaces. -/
def spaces (n : Nat) : String := String.ofList (List.replicate n ' ')

def padRight (width : Nat) (s : String) : String := s ++ spaces (width - s.length)

def padLeft (width : Nat) (s : String) : String := spaces (width - s.length) ++ s

/-- A text between spaces; an odd space goes to the right. -/
def centre (width : Nat) (s : String) : String :=
  let free := width - s.length
  spaces (free / 2) ++ s ++ spaces (free - free / 2)

/-- The length of the longest text. -/
def widest (texts : List String) : Nat := texts.foldl (fun n s => max n s.length) 0

/-- A text with a margin of four characters on either side and of one line above and below. -/
def title (text : String) : String :=
  let lines := linesOf text
  let width := widest lines
  let blank := spaces (width + 8)
  let inner := lines.map fun line => spaces 4 ++ padRight width line ++ spaces 4
  "\n".intercalate (blank :: inner ++ [blank]) ++ "\n"

/-- A text set in by two characters, with lines of one length. -/
def paragraph (text : String) : String :=
  let lines := linesOf text
  let width := widest lines
  "\n".intercalate (lines.map fun line => spaces 2 ++ padRight width line) ++ "\n"

/-- Headers, and rows with a cell for each of them. -/
structure Table where
  headers : List String
  rows : List (List String)

namespace Table

/-- The width of each column. -/
def widths (t : Table) : List Nat :=
  t.headers.zipIdx.map fun (header, column) =>
    widest (header :: t.rows.map fun row => row.getD column "") + 4

/-- A horizontal line with its left, middle and right joints. -/
def rule (widths : List Nat) (left middle right : String) : String :=
  left ++ middle.intercalate (widths.map fun n => String.ofList (List.replicate n '─')) ++ right ++
    "\n"

/-- Texts between vertical lines. -/
def line (texts : List String) : String := "│" ++ "│".intercalate texts ++ "│\n"

def headerLine (t : Table) : String :=
  line ((t.headers.zip t.widths).map fun (header, width) => centre width header)

/-- One row: the first cell is set to the right, the others to the left. -/
def rowLine (widths : List Nat) (row : List String) : String :=
  line ((row.zip widths).zipIdx.map fun ((cell, width), column) =>
    if column = 0 then padLeft (width - 1) cell ++ " " else padRight width (" " ++ cell))

def text (t : Table) : String :=
  let ws := t.widths
  rule ws "┌" "┬" "┐" ++ t.headerLine ++ rule ws "├" "┼" "┤" ++
    "".intercalate (t.rows.map (rowLine ws)) ++ rule ws "└" "┴" "┘"

end Table

/-- How the parts of a report are set. -/
class Style where
  title : String → String
  paragraph : String → String
  table : Table → String

instance : Style := ⟨title, paragraph, Table.text⟩

end TensorGraph.Report
