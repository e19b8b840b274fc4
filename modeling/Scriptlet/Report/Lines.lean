import Scriptlet.Text.Columns
import Scriptlet.Text.Whitespace

/-! The lines of a source, and the terminal columns of a line. -/
namespace Scriptlet.Report

structure Line where
  number : Nat
  start : Nat
  chars : List Char

def byteSize : List Char → Nat
  | [] => 0
  | c :: rest => c.utf8Size + byteSize rest

def splitLines : List Char → List (List Char)
  | [] => [[]]
  | c :: rest =>
    match splitLines rest with
    | [] => [[c]]
    | first :: others =>
      if c = '\n' then [c] :: first :: others else (c :: first) :: others

def numberLines (number start : Nat) : List (List Char) → List Line
  | [] => []
  | chars :: rest =>
    ⟨number,start,chars⟩ :: numberLines (number + 1) (start + byteSize chars) rest

def linesOf (source : String) : List Line := numberLines 1 0 (splitLines source.toList)

def lineAt (lines : List Line) (place : Nat) : Line :=
  ((lines.filter fun line => line.start ≤ place).getLast?).getD ⟨1,0,[]⟩

def Line.column (line : Line) (place : Nat) : Nat :=
  let rec before (offset : Nat) : List Char → Nat
    | [] => 0
    | c :: rest => if offset < place then before (offset + c.utf8Size) rest + 1 else 0
  before line.start line.chars + 1

def Line.shown (line : Line) : List Char :=
  (line.chars.reverse.dropWhile fun c => c = '\n' || c = '\r' || c = '\x00').reverse

structure Cell where
  char : Char
  start : Nat
  width : Nat

def Cell.stop (cell : Cell) : Nat := cell.start + cell.char.utf8Size

/-- A tab reaches to the next multiple of four columns. -/
def cellWidth (column : Nat) (c : Char) : Nat :=
  if c = '\t' then 4 - column % 4 else Text.columns c

def cellsFrom (start column : Nat) : List Char → List Cell
  | [] => []
  | c :: rest =>
    let width := cellWidth column c
    ⟨c,start,width⟩ :: cellsFrom (start + c.utf8Size) (column + width) rest

def Line.cells (line : Line) : List Cell := cellsFrom 0 0 line.shown

def Cell.text (cell : Cell) : String :=
  if cell.char = '\t' then String.ofList (List.replicate cell.width ' ')
  else String.singleton cell.char

def filled (fill : Char) (cells : List Cell) : String :=
  String.ofList (cells.flatMap fun cell => List.replicate cell.width fill)

def Line.indentation (line : Line) : Nat := byteSize (line.shown.takeWhile Text.isWhitespace)

end Scriptlet.Report
