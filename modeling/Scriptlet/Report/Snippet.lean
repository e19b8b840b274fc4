import Scriptlet.Report.Lines
import Scriptlet.Report.Markup
import Scriptlet.Span

/-! The lines of a source around a labelled span. A span inside one line is underlined;
one over several lines is bracketed on the left. -/
namespace Scriptlet.Report

structure Label where
  text : String
  span : Span

inductive Role where
  | top (start : Nat)
  | left
  | bottom (stop : Nat)
  | outside

def gutter (width : Nat) : Markup := plainly (String.ofList (List.replicate (width + 1) ' '))

def numberGutter (width number : Nat) : Markup :=
  let digits := toString number
  painted .border (String.ofList (List.replicate (width - digits.length) ' ') ++ digits)
    ++ plainly " "

def bar : Markup := painted .border "│"

def lineEnd : Markup := plainly "\n"

def sourceText (marked : Cell → Bool) (cells : List Cell) : Markup :=
  let written (part : List Cell) := String.join (part.map Cell.text)
  let before := cells.takeWhile (!marked ·)
  let rest := cells.dropWhile (!marked ·)
  let inside := rest.takeWhile marked
  let after := rest.dropWhile marked
  plainly (written before) ++ (if inside.isEmpty then [] else painted .label (written inside))
    ++ plainly (written after)

def trailing (text : String) : String := if text.isEmpty then "" else " " ++ text

/-- A label on one line: at least one byte is labelled, and the end of the line counts
as one more character. -/
def singleLine (width : Nat) (line : Line) (label : Label) : Markup :=
  let start := label.span.start.toNat - line.start
  let stop := max (label.span.stop.toNat - line.start) (start + 1)
  let marked (cell : Cell) : Bool := max start cell.start < min stop cell.stop
  let ending : Cell := ⟨'\x00',byteSize line.shown,1⟩
  let cells := line.cells ++ [ending]
  let before := cells.takeWhile (!marked ·)
  let rest := cells.dropWhile (!marked ·)
  let inside := rest.takeWhile marked
  let padding (part : List Cell) := filled ' ' (part.filter fun cell => cell.start < stop)
  numberGutter width line.number ++ bar ++ plainly " " ++ sourceText marked line.cells ++ lineEnd
    ++ gutter width ++ bar ++ plainly (" " ++ padding before)
    ++ (if inside.isEmpty then [] else painted .label (filled '^' inside))
    ++ plainly (padding (rest.dropWhile marked))
    ++ (if label.text.isEmpty then [] else plainly " " ++ painted .label label.text) ++ lineEnd

def opensBeside (line : Line) (start : Nat) : Bool := start ≤ line.indentation

def sideMark (line : Line) : Role → Markup
  | .top start =>
    if opensBeside line start then plainly " " ++ painted .label "╭" else plainly "  "
  | .left => plainly " " ++ painted .label "│"
  | .bottom _ => plainly " " ++ painted .label "│"
  | .outside => plainly "  "

def Role.marks (role : Role) (cell : Cell) : Bool :=
  match role with
  | .top start => start ≤ cell.start
  | .left => true
  | .bottom stop => cell.stop ≤ stop
  | .outside => false

def bracket (width : Nat) (line : Line) (text : String) : Role → Markup
  | .top start =>
    if opensBeside line start then []
    else
      gutter width ++ bar ++ plainly " " ++ painted .label "╭"
        ++ painted .label (filled '─' (line.cells.takeWhile fun cell => cell.start < start + 1)
          ++ "^") ++ lineEnd
  | .bottom stop =>
    gutter width ++ bar ++ plainly " " ++ painted .label "╰"
      ++ painted .label (filled '─' (line.cells.takeWhile fun cell => cell.start < stop)
        ++ "^" ++ trailing text) ++ lineEnd
  | _ => []

def bracketedLine (width : Nat) (text : String) (line : Line) (role : Role) : Markup :=
  numberGutter width line.number ++ bar ++ sideMark line role ++ plainly " "
    ++ sourceText role.marks line.cells ++ lineEnd ++ bracket width line text role

def breakLine (width : Nat) : Markup :=
  gutter width ++ painted .border "·" ++ plainly " " ++ painted .label "│" ++ lineEnd

def isShown (first last : Line) (line : Line) : Role → Bool
  | .left => line.number - first.number ≤ 3 || last.number - line.number ≤ 1
  | .outside => false
  | _ => true

def roleOf (first last : Line) (span : Span) (line : Line) : Role :=
  if line.number = first.number then .top (span.start.toNat - line.start)
  else if line.number = last.number then .bottom (span.stop.toNat - line.start)
  else if first.number < line.number && line.number < last.number then .left
  else .outside

/-- The shown lines in order. A single hidden line between two of them is shown after all. -/
def joinLines (width : Nat) (text : String) (hidden : Nat → Markup) :
    List (Line × Role) → Markup
  | [] => []
  | [(line,role)] => bracketedLine width text line role
  | (line,role) :: (next,nextRole) :: rest =>
    let gap := next.number - line.number
    bracketedLine width text line role
      ++ (if gap = 1 then [] else if gap = 2 then hidden (line.number + 1)
        else breakLine width)
      ++ joinLines width text hidden ((next,nextRole) :: rest)

def severalLines (width : Nat) (lines : List Line) (first last : Line) (label : Label) : Markup :=
  let roles := lines.map fun line => (line,roleOf first last label.span line)
  let hidden (number : Nat) : Markup :=
    match roles.find? fun entry => entry.1.number = number with
    | some (line,role) => bracketedLine width label.text line role
    | none => []
  joinLines width label.text hidden
    (roles.filter fun entry => isShown first last entry.1 entry.2)

def snippet (source path : String) (label : Label) : Markup :=
  let lines := linesOf source
  let first := lineAt lines label.span.start.toNat
  let last := lineAt lines label.span.stop.toNat
  let width := (toString (max first.number last.number)).length
  let place := path ++ ":" ++ toString first.number ++ ":"
    ++ toString (first.column label.span.start.toNat)
  let single := first.number = last.number
  gutter width ++ painted .border "┌─" ++ plainly (" " ++ place ++ "\n")
    ++ gutter width ++ bar ++ plainly (if single then "\n" else "  \n")
    ++ (if single then singleLine width first label
      else severalLines width lines first last label)

end Scriptlet.Report
