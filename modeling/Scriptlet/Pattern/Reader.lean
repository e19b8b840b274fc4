import Scriptlet.Pattern
import Scriptlet.Text.Alphabetic
import Scriptlet.Text.Numeric
import Scriptlet.Text.Whitespace

/-! Reading a pattern. Groups and classes that are open stand on a stack, so that every step
reads at least one character. References back, looking around, character properties and
counted repetitions are refused. -/
namespace Scriptlet.Pattern

def afterBlanks (inComment : Bool) : List Char → List Char
  | [] => []
  | c :: rest =>
    if inComment then afterBlanks (c != '\n') rest
    else if Text.isWhitespace c then afterBlanks false rest
    else if c = '#' then afterBlanks true rest
    else c :: rest

def skip (spaced : Bool) (chars : List Char) : List Char :=
  if spaced then afterBlanks false chars else chars

def solid? (inComment : Bool) : List Char → Option Char
  | [] => none
  | c :: rest =>
    if Text.isWhitespace c then solid? inComment rest
    else if c = '#' && !inComment then solid? true rest
    else some c

/-- What a look ahead sees; it looks into a comment. -/
def glimpse (spaced : Bool) (chars : List Char) : Option Char :=
  if spaced then (solid? false chars).or chars.head? else chars.head?

def hexDigit? (c : Char) : Option Nat :=
  if c.isDigit then some (c.toNat - '0'.toNat)
  else if 'a' ≤ c && c ≤ 'f' then some (c.toNat - 'a'.toNat + 10)
  else if 'A' ≤ c && c ≤ 'F' then some (c.toNat - 'A'.toNat + 10)
  else none

def hexDigits? (spaced : Bool) : Nat → Nat → List Char → Option (Nat × List Char)
  | 0,value,chars => some (value,chars)
  | count + 1,value,chars =>
    match skip spaced chars with
    | [] => none
    | c :: rest =>
      match hexDigit? c with
      | some digit => hexDigits? spaced count (16 * value + digit) rest
      | none => none

inductive Atom where
  | literal (literal : Literal)
  | shorthand (negated : Bool)
  | anchor
  | boundary
  deriving DecidableEq,Repr

def verbatim (c : Char) : Atom := .literal ⟨c,false⟩

def codePoint? (spaced : Bool) (count : Nat) (chars : List Char) : Option (Atom × List Char) :=
  match hexDigits? spaced count 0 chars with
  | some (value,rest) =>
    if value.isValidChar then some (.literal ⟨Char.ofNat value,count = 2⟩,rest) else none
  | none => none

def escape? (spaced : Bool) : List Char → Option (Atom × List Char)
  | [] => none
  | c :: rest =>
    match c with
    | 'x' => codePoint? spaced 2 rest
    | 'u' => codePoint? spaced 4 rest
    | 'U' => codePoint? spaced 8 rest
    | 'd' | 's' | 'w' => some (.shorthand false,rest)
    | 'D' | 'S' | 'W' => some (.shorthand true,rest)
    | 'b' | 'B' | '<' | '>' => some (.boundary,rest)
    | 'A' | 'z' => some (.anchor,rest)
    | 'a' => some (verbatim '\x07',rest)
    | 'f' => some (verbatim '\x0c',rest)
    | 't' => some (verbatim '\t',rest)
    | 'n' => some (verbatim '\n',rest)
    | 'r' => some (verbatim '\r',rest)
    | 'v' => some (verbatim '\x0b',rest)
    | c => if c.toNat < 0x80 && !c.isAlphanum then some (verbatim c,rest) else none

def namedClasses : List String :=
  ["alnum","alpha","ascii","blank","cntrl","digit","graph","lower","print","punct","space",
    "upper","word","xdigit"]

def namedClass? : List Char → Option (Bool × List Char)
  | ':' :: rest =>
    let (negated,rest) := match rest with
      | '^' :: rest => (true,rest)
      | rest => (false,rest)
    let name := rest.takeWhile (· != ':')
    match rest.dropWhile (· != ':') with
    | ':' :: ']' :: rest =>
      if namedClasses.contains (String.ofList name) then some (negated,rest) else none
    | _ => none
  | _ => none

def classAtom? (spaced : Bool) : List Char → Option (Atom × List Char)
  | [] => none
  | c :: rest => if c = '\\' then escape? spaced rest else some (verbatim c,rest)

def memberOf : Atom → Option CharSet
  | .literal content => some (.literal content)
  | .shorthand negated => some (.shorthand negated)
  | _ => none

def member? (spaced : Bool) (chars : List Char) : Option (CharSet × List Char) :=
  match classAtom? spaced chars with
  | none => none
  | some (first,rest) =>
    match skip spaced rest with
    | [] => none
    | c :: after =>
      let next := glimpse spaced after
      if c != '-' || next = some ']' || next = some '-' then
        (memberOf first).map fun member => (member,c :: after)
      else
        match first,classAtom? spaced (skip spaced after) with
        | .literal first,some (.literal last,rest) =>
          if first.char ≤ last.char then some (.range first last,rest) else none
        | _,_ => none

/-- How much of the start of a class has been read: its bracket, a circumflex or hyphens
after it, or members. -/
inductive ClassStage where
  | bracket
  | opening
  | members
  deriving DecidableEq,Repr

/-- An open class. Its members come last first; those before an operator are put aside. -/
structure OpenClass where
  stage : ClassStage
  negated : Bool
  left : Option CharSet
  members : List CharSet

namespace OpenClass

def start : OpenClass := ⟨.bracket,false,none,[]⟩

def push (frame : OpenClass) (member : CharSet) : OpenClass :=
  {frame with members := member :: frame.members}

def set (frame : OpenClass) : CharSet :=
  let right := match frame.members with
    | [] => CharSet.nothing
    | [member] => member
    | members => .union members.reverse
  match frame.left with
  | some left => .operation left right
  | none => right

def putAside (frame : OpenClass) : OpenClass := {frame with left := some frame.set,members := []}

end OpenClass

/-- Reads to the end of the outermost class. Hyphens, and a closing bracket that comes first,
stand for themselves at the start of a class. -/
def charClass? (spaced : Bool) :
    Nat → OpenClass → List OpenClass → List Char → Option (Pattern × List Char)
  | 0,_,_,_ => none
  | bound + 1,frame,outer,chars =>
    match skip spaced chars with
    | [] => none
    | c :: rest =>
      if c = '^' && frame.stage = .bracket then
        charClass? spaced bound {frame with stage := .opening,negated := true} outer rest
      else if c = '-' && frame.stage != .members then
        charClass? spaced bound
          ({frame with stage := .opening}.push (.literal ⟨'-',false⟩)) outer rest
      else if c = ']' && frame.stage != .members && frame.members.isEmpty then
        charClass? spaced bound
          ({frame with stage := .members}.push (.literal ⟨']',false⟩)) outer rest
      else
        let frame := {frame with stage := .members}
        if c = '[' then
          match namedClass? rest with
          | some (negated,rest) => charClass? spaced bound (frame.push (.named negated)) outer rest
          | none => charClass? spaced bound OpenClass.start (frame :: outer) rest
        else if c = ']' then
          match outer with
          | [] => some (.charClass frame.negated frame.set,rest)
          | next :: outer =>
            charClass? spaced bound (next.push (.bracketed frame.negated frame.set)) outer rest
        else if (c = '&' || c = '-' || c = '~') && rest.head? = some c then
          charClass? spaced bound frame.putAside outer rest.tail
        else
          match member? spaced (c :: rest) with
          | some (member,rest) => charClass? spaced bound (frame.push member) outer rest
          | none => none

def groupName? (chars : List Char) : Option (String × List Char) :=
  match chars.takeWhile (· != '>'),chars.dropWhile (· != '>') with
  | first :: others,_ :: rest =>
    let opens (c : Char) : Bool := c = '_' || Text.isAlphabetic c
    let continues (c : Char) : Bool :=
      opens c || Text.isNumeric c || c = '.' || c = '[' || c = ']'
    if opens first && others.all continues then some (String.ofList (first :: others),rest)
    else none
  | _,_ => none

def flags? (flags : Flags) (on : Bool) (seen : List Char) :
    List Char → Option (Flags × Char × List Char)
  | [] => none
  | c :: rest =>
    if c = ':' || c = ')' then
      if seen.head? = some '-' || (c = ')' && seen.isEmpty) then none else some (flags,c,rest)
    else if seen.contains c then none
    else
      match c with
      | '-' => flags? flags false (c :: seen) rest
      | 'i' => flags? {flags with folding := some on} on (c :: seen) rest
      | 'u' => flags? {flags with wide := some on} on (c :: seen) rest
      | 'x' => flags? {flags with spaced := some on} on (c :: seen) rest
      | 'm' | 's' | 'U' | 'R' => flags? flags on (c :: seen) rest
      | _ => none

inductive Opening where
  | setting (flags : Flags)
  | group (name : Option String) (flags : Flags)
  deriving DecidableEq,Repr

def opening? (spaced : Bool) (chars : List Char) : Option (Opening × List Char) :=
  let named (chars : List Char) : Option (Opening × List Char) :=
    match groupName? chars with
    | some (name,rest) => some (.group (some name) Flags.unchanged,rest)
    | none => none
  match skip spaced chars with
  | '?' :: 'P' :: '<' :: rest => named rest
  | '?' :: '<' :: rest => named rest
  | '?' :: rest =>
    match flags? Flags.unchanged true [] rest with
    | some (changes,':',rest) => some (.group none changes,rest)
    | some (changes,_,rest) => some (.setting changes,rest)
    | none => none
  | chars => some (.group none Flags.unchanged,chars)

structure OpenGroup where
  flags : Flags
  spaced : Bool
  branches : List Pattern
  items : List Pattern

structure Draft where
  spaced : Bool
  names : List String
  branches : List Pattern
  items : List Pattern
  groups : List OpenGroup

namespace Draft

def start : Draft := ⟨false,[],[],[],[]⟩

def push (draft : Draft) (item : Pattern) : Draft := {draft with items := item :: draft.items}

def branch (draft : Draft) : Pattern :=
  match draft.items with
  | [] => .empty
  | [item] => item
  | items => .concatenation items.reverse

def whole (draft : Draft) : Pattern :=
  if draft.branches.isEmpty then draft.branch
  else .alternation (draft.branch :: draft.branches).reverse

def nextBranch (draft : Draft) : Draft :=
  {draft with branches := draft.branch :: draft.branches,items := []}

def open? (draft : Draft) : Opening → Option Draft
  | .setting changes =>
    some ({draft with spaced := changes.spaced.getD draft.spaced}.push (.flags changes))
  | .group name changes =>
    match name with
    | some name =>
      if draft.names.contains name then none
      else some (opened changes {draft with names := name :: draft.names})
    | none => some (opened changes draft)
where
  opened (changes : Flags) (draft : Draft) : Draft :=
    {draft with
      spaced := changes.spaced.getD draft.spaced
      branches := []
      items := []
      groups := ⟨changes,draft.spaced,draft.branches,draft.items⟩ :: draft.groups}

def close? (draft : Draft) : Option Draft :=
  match draft.groups with
  | [] => none
  | ended :: groups =>
    some {draft with
      spaced := ended.spaced
      branches := ended.branches
      items := .group ended.flags draft.whole :: ended.items
      groups := groups}

def repeat? (draft : Draft) : Option Draft :=
  match draft.items with
  | [] => none
  | .flags _ :: _ => none
  | last :: items => some {draft with items := .repetition last :: items}

end Draft

def patternOf : Atom → Pattern
  | .literal content => .literal content
  | .shorthand negated => .shorthand negated
  | .anchor => .anchor
  | .boundary => .boundary

/-- Reads one part of a pattern. A question mark after a repetition belongs to it. -/
def step? (draft : Draft) (c : Char) (rest : List Char) : Option (Draft × List Char) :=
  match c with
  | '(' => do
    let (opening,rest) ← opening? draft.spaced rest
    let draft ← draft.open? opening
    return (draft,rest)
  | ')' => draft.close?.map fun draft => (draft,rest)
  | '|' => some (draft.nextBranch,rest)
  | '[' =>
    (charClass? draft.spaced (rest.length + 1) OpenClass.start [] rest).map fun (item,rest) =>
      (draft.push item,rest)
  | '\\' => (escape? draft.spaced rest).map fun (atom,rest) => (draft.push (patternOf atom),rest)
  | '?' | '*' | '+' =>
    draft.repeat?.map fun draft => (draft,if rest.head? = some '?' then rest.tail else rest)
  | '{' => none
  | '.' => some (draft.push .dot,rest)
  | '^' | '$' => some (draft.push .anchor,rest)
  | c => some (draft.push (.literal ⟨c,false⟩),rest)

def steps? : Nat → Draft → List Char → Option Pattern
  | 0,_,_ => none
  | bound + 1,draft,chars =>
    match skip draft.spaced chars with
    | [] => if draft.groups.isEmpty then some draft.whole else none
    | c :: rest =>
      match step? draft c rest with
      | some (draft,rest) => steps? bound draft rest
      | none => none

def read? (text : String) : Option Pattern := steps? (text.length + 1) Draft.start text.toList

def textFault? (text : String) : Option PatternFault :=
  match read? text with
  | some pattern => pattern.fault?
  | none => some .unusable

end Scriptlet.Pattern
