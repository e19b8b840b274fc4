import Scriptlet.Span
import Scriptlet.Text.Quoted

/-! Events of a run that a log can show. -/
namespace Scriptlet

inductive Level where
  | error
  | warn
  | info
  | debug
  | trace
  deriving DecidableEq,Repr

def Level.rank : Level → Nat
  | error => 1
  | warn => 2
  | info => 3
  | debug => 4
  | trace => 5

def Level.name : Level → String
  | error => "ERROR"
  | warn => "WARN"
  | info => "INFO"
  | debug => "DEBUG"
  | trace => "TRACE"

inductive Event where
  | statement (span : Span)
  | declare (name : String) (constant : Bool)
  | callNative (name : String) (arguments : Nat)
  | call (name : String) (arguments : Nat)
  | parsed (path : String) (statements : Nat)
  | run (path : String) (printTree : Bool)
  | runFailed (reason : String)
  | input (line : String)
  | inputFailed (reason : String)
  deriving DecidableEq,Repr

namespace Event

def level : Event → Level
  | statement _ => .trace
  | _ => .debug

def source : Event → String
  | statement _ => "ember_core::eval"
  | declare _ _ => "ember_core::environment::environment"
  | callNative _ _ => "ember_core::eval"
  | call _ _ => "ember_core::eval"
  | parsed _ _ => "ember_core::session"
  | run _ _ => "ember"
  | runFailed _ => "ember"
  | input _ => "ember::repl"
  | inputFailed _ => "ember::repl"

def truth (value : Bool) : String := if value then "true" else "false"

def message : Event → String
  | statement _ => "statement"
  | declare _ _ => "declare"
  | callNative _ _ => "call native"
  | call _ _ => "call"
  | parsed _ _ => "parsed"
  | run _ _ => "run"
  | runFailed _ => "run failed"
  | input _ => "eval"
  | inputFailed _ => "input failed"

def details : Event → List (String × String)
  | statement span => [("location",span.text)]
  | declare name constant => [("name",Text.quoted name),("constant",truth constant)]
  | callNative name arguments => [("name",name),("args",toString arguments)]
  | call name arguments => [("name",name),("args",toString arguments)]
  | parsed path statements => [("path",path),("statements",toString statements)]
  | run path printTree => [("path",path),("print_ast",truth printTree)]
  | runFailed reason => [("error",reason)]
  | input line => [("input",Text.quoted line)]
  | inputFailed reason => [("error",reason)]

def text (event : Event) : String :=
  event.message ++ String.join (event.details.map fun detail => " " ++ detail.1 ++ "=" ++ detail.2)

def hasField (event : Event) (name : String) : Bool :=
  name = "message" || event.details.any fun detail => detail.1 = name

end Event
end Scriptlet
