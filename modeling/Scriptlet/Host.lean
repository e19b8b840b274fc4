import Scriptlet.Eval

/-! Calls. A host gives custom routines their meaning and bounds how deep calls nest. -/
namespace Scriptlet
open Act

/-- A custom routine is given a way to call values from a scope; an error inside such a
call comes back without its place. -/
structure Host where
  custom : String → (Value → List Value → ScopeId → Act Fault Value) →
    List Value → ScopeId → Act Fault Value
  depth : Nat

namespace Host

def standard : Host where
  custom label _ _ _ := throw (.native ("unknown routine " ++ label))
  depth := 10000

def print (arguments : List Value) : Act Fault Value := do
  let store := (← get).store
  printLine (String.intercalate " " (arguments.map store.text))
  return .null

def time : Act Fault Value := do
  match ← readClock with
  | .ok reading => return .number reading
  | .error message => throw (.native message)

def routine (host : Host) (call : Call) (arguments : List Value) (scope : ScopeId) :
    Routine → Act Fault Value
  | .print => print arguments
  | .time => time
  | .custom label =>
    host.custom label (fun callee given caller => unlocated (call callee given caller Span.empty))
      arguments scope

def bindParameters (scope : ScopeId) (span : Span) : List String → List Value → Eval Unit
  | parameter :: parameters,argument :: arguments => do
    let _ ← located span (declare scope parameter argument false)
    bindParameters scope span parameters arguments
  | _,_ => return

def enter (call : Call) (function : Closure) (arguments : List Value) (span : Span) :
    Eval Value := do
  if arguments.length < function.parameters.length then
    Eval.fail (.arityMismatch function.name function.parameters.length arguments.length) span
  else
    let scope ← addScope (some function.scope)
    bindParameters scope span function.parameters arguments
    Eval.body call scope function.body

def call (host : Host) : Nat → Call
  | 0,_,_,_,span => Eval.fail .depthExceeded span
  | depth + 1,callee,arguments,scope,span =>
    match callee with
    | .native function => do
      log (.callNative function.name arguments.length)
      located span (host.routine (host.call depth) arguments scope function.routine)
    | .closure function => do
      log (.call function.name arguments.length)
      enter (host.call depth) function arguments span
    | other => Eval.fail (.notCallable other.kind) span

def callValue (host : Host) : Call := host.call host.depth

def statement (host : Host) (scope : ScopeId) (content : Statement) : Eval Value :=
  Eval.statement host.callValue scope content

def evaluate (host : Host) (scope : ScopeId) (program : Program) : Eval Value :=
  Eval.body host.callValue scope program.statements

end Host
end Scriptlet
