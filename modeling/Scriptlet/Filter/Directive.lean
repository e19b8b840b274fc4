import Scriptlet.Event
import Scriptlet.Number.Reader
import Scriptlet.Pattern.Reader
import Scriptlet.Text.Whitespace

/-! Directives of a log filter: a target, a scope with a field in brackets, and a level after
an equals sign. Each part may be missing. -/
namespace Scriptlet

structure FieldTest where
  name : String
  value : Option String
  deriving DecidableEq,Repr

/-- Events up to the rank of a level are shown; rank zero shows none. -/
structure Directive where
  target : Option String
  scope : Option String
  field : Option FieldTest
  rank : Nat
  deriving DecidableEq,Repr

inductive DirectiveFault where
  | form
  | level
  | value (fault : PatternFault)
  deriving DecidableEq,Repr

def DirectiveFault.message : DirectiveFault → String
  | form => "invalid filter directive"
  | level => "error parsing level filter: expected one of \"off\", \"error\", \"warn\", "
      ++ "\"info\", \"debug\", \"trace\", or a number 0-5"
  | value fault => "invalid field filter: " ++ fault.message

namespace Directive

def everything : Directive := ⟨none,none,none,Level.trace.rank⟩

def concerns (directive : Directive) (event : Event) : Bool :=
  directive.scope.isNone
    && (match directive.target with
      | some target => target.toList.isPrefixOf event.source.toList
      | none => true)
    && (match directive.field with
      | some ⟨name,none⟩ => event.hasField name
      | some ⟨_,some _⟩ => false
      | none => true)

/-- Of two directives for one event, a target counts more than none, a longer one more than a
shorter one, then a field more than none, then the field that comes later in order. -/
def yieldsTo (chosen directive : Directive) : Bool :=
  let reach (directive : Directive) : Nat :=
    match directive.target with
    | some target => target.utf8ByteSize + 1
    | none => 0
  if reach chosen = reach directive then
    match chosen.field,directive.field with
    | none,_ => true
    | some _,none => false
    | some earlier,some later => !(later.name < earlier.name)
  else reach chosen < reach directive

def rank? (text : String) : Option Nat :=
  let digits := match text.toList with
    | '+' :: digits => digits
    | digits => digits
  if !digits.isEmpty && digits.all Char.isDigit then
    let number := Number.digitsValue digits
    if number ≤ 5 then some number else none
  else
    match text.toLower with
    | "off" => some 0
    | "error" => some 1
    | "warn" => some 2
    | "info" => some 3
    | "debug" => some 4
    | "trace" => some 5
    | _ => none

def fieldTest (text : String) : Except DirectiveFault FieldTest :=
  match text.splitOn "=" with
  | name :: value :: _ =>
    if (Number.read? value).isSome then .ok ⟨name,some value⟩
    else
      match Pattern.textFault? value with
      | none => .ok ⟨name,some value⟩
      | some fault => .error (.value fault)
  | _ => if text.isEmpty then .error .form else .ok ⟨text,none⟩

inductive Reading where
  | start
  | target (start : Nat)
  | scope (start : Nat)
  | field (start : Nat)
  | fieldEnd
  | scopeEnd
  | level (start : Nat)
  deriving DecidableEq,Repr

def opensTarget (c : Char) : Bool :=
  c = '-' || c = ':' || c = '_' || Text.isAlphabetic c || Text.isNumeric c

def step (piece : Nat → Nat → String) (place : Nat) (c : Char) (directive : Directive) :
    Reading → Except DirectiveFault (Directive × Reading)
  | .start =>
    if c = '[' then .ok (directive,.scope (place + 1))
    else if opensTarget c then .ok (directive,.target place)
    else .error .form
  | .target start =>
    if c = '=' then .ok ({directive with target := some (piece start place)},.level (place + 1))
    else if c = '[' then
      .ok ({directive with target := some (piece start place)},.scope (place + 1))
    else .ok (directive,.target start)
  | .scope start =>
    let name := piece start place
    if c = ']' then .ok ({directive with scope := some name},.scopeEnd)
    else if c = '{' then
      .ok ({directive with scope := if name.isEmpty then none else some name},.field (place + 1))
    else .ok (directive,.scope start)
  | .field start =>
    if c = '}' then do
      let test ← fieldTest (piece start place)
      return ({directive with field := some test},.fieldEnd)
    else .ok (directive,.field start)
  | .fieldEnd => if c = ']' then .ok (directive,.scopeEnd) else .error .form
  | .scopeEnd => if c = '=' then .ok (directive,.level (place + 1)) else .error .form
  | .level start => .ok (directive,.level start)

def finish (rest : Nat → String) (directive : Directive) :
    Reading → Except DirectiveFault Directive
  | .target start =>
    match rank? (rest start) with
    | some rank => .ok {directive with rank}
    | none => .ok {directive with target := some (rest start)}
  | .level start =>
    if (rest start).isEmpty then .ok directive
    else
      match rank? (rest start) with
      | some rank => .ok {directive with rank}
      | none => .error .level
  | .scopeEnd => .ok directive
  | _ => .error .form

def steps (piece : Nat → Nat → String) :
    Nat → Directive → Reading → List Char → Except DirectiveFault (Directive × Reading)
  | _,directive,reading,[] => .ok (directive,reading)
  | place,directive,reading,c :: rest => do
    let (directive,reading) ← step piece place c directive reading
    steps piece (place + c.utf8Size) directive reading rest

def between (start stop : Nat) : Nat → List Char → List Char
  | _,[] => []
  | place,c :: rest =>
    if start ≤ place && place < stop then c :: between start stop (place + c.utf8Size) rest
    else between start stop (place + c.utf8Size) rest

/-- Blanks around a directive are passed over, but its parts are cut from the whole text at
the places found without them. -/
def read (text : String) : Except DirectiveFault Directive := do
  let blank (c : Char) : Bool := Text.isWhitespace c
  let trimmed := ((text.toList.dropWhile blank).reverse.dropWhile blank).reverse
  let piece (start stop : Nat) : String := String.ofList (between start stop 0 text.toList)
  let (directive,reading) ← steps piece 0 everything .start trimmed
  finish (fun start => piece start text.utf8ByteSize) directive reading

end Directive
end Scriptlet
