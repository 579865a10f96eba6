/-! # Text in columns

A table is written as text with a tab after each cell. The text after the last tab of a line is no
cell. In a block of consecutive lines that have a cell in a column, the column is as wide as the
widest of these cells and two blanks. A form feed ends a line and all blocks with it.

`Table.layout` sets the text of a table in columns. It works column by column: `Row.advance` moves
the first cell that is left of each row to the finished part of the row. -/

namespace RegisterMap.Cli.Table

/-- Splits a text at the characters that a test accepts. -/
def splitAt (isMark : Char → Bool) : List Char → List (List Char)
  | [] => [[]]
  | c :: cs =>
    if isMark c then [] :: splitAt isMark cs
    else
      match splitAt isMark cs with
      | [] => [[c]]
      | part :: parts => (c :: part) :: parts

/-- A line of a table: what is finished, the cells that are left, and the text after them. -/
structure Row where
  finished : List Char := []
  cells : List (List Char)
  rest : List Char
  deriving DecidableEq, Repr

def Row.ofLine (line : List Char) : Row :=
  let parts := splitAt (fun c => c == '\t' || c == '\x0b') line
  { cells := parts.dropLast, rest := parts.getLast?.getD [] }

/-- For each place of a column the widest cell from there to the end of the block; places without a
    cell end a block. -/
def widestBelow : List (Option Nat) → List Nat
  | [] => []
  | none :: column => 0 :: widestBelow column
  | some width :: column =>
    let below := widestBelow column
    max width (below.headD 0) :: below

/-- For each place of a column the widest cell of its block. -/
def widestOfBlock (column : List (Option Nat)) : List Nat :=
  List.zipWith max (widestBelow column) (widestBelow column.reverse).reverse

/-- The blanks between two columns. -/
def gap : Nat := 2

/-- Moves the first cell of a row, filled up to the width of its column, to the finished part. -/
def Row.advance (row : Row) (width : Nat) : Row :=
  match row.cells with
  | [] => row
  | cell :: cells =>
    let blanks := List.replicate (width + gap - cell.length) ' '
    { row with finished := row.finished ++ cell ++ blanks, cells }

/-- Finishes the first column that is left. -/
def advanceAll (rows : List Row) : List Row :=
  let column := rows.map fun row => row.cells.head?.map List.length
  List.zipWith Row.advance rows (widestOfBlock column)

/-- Finishes a number of columns. -/
def finish : (columns : Nat) → List Row → List Row
  | 0, rows => rows
  | columns + 1, rows => finish columns (advanceAll rows)

/-- The lines of a section in columns. -/
def sectionLines (text : List Char) : List (List Char) :=
  let rows := (splitAt (· == '\n') text).map Row.ofLine
  let columns := (rows.map fun row => row.cells.length).foldl max 0
  (finish columns rows).map fun row => row.finished ++ row.rest

/-- The text of a table in columns. -/
def layout (text : String) : String :=
  let sections := splitAt (· == '\x0c') text.toList
  "\n".intercalate ((sections.flatMap sectionLines).map String.ofList)

end RegisterMap.Cli.Table
