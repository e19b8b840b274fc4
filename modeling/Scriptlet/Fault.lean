import Scriptlet.Value

/-! Why an evaluation fails. -/
namespace Scriptlet

inductive Fault where
  | duplicateDeclaration (name : String)
  | unresolvedVariable (name : String)
  | constAssignment (name : String)
  | invalidTarget (target : String)
  | notCallable (kind : Kind)
  | arityMismatch (name : String) (expected got : Nat)
  | typeMismatch (operator : Operator) (left right : Kind)
  | notAnObject (key : String) (kind : Kind)
  | unknownProperty (key : String)
  | invalidKey (kind : Kind)
  | native (message : String)
  | depthExceeded
  deriving DecidableEq,Repr

structure RuntimeError where
  fault : Fault
  span : Span
  deriving DecidableEq,Repr

namespace Fault

def ticked (text : String) : String := "`" ++ text ++ "`"

def message : Fault → String
  | duplicateDeclaration name =>
    "cannot declare variable " ++ ticked name ++ " since it is already declared in this scope"
  | unresolvedVariable name =>
    "cannot resolve variable " ++ ticked name ++ " since it does not exist"
  | constAssignment name => "cannot reassign constant " ++ ticked name
  | invalidTarget target => "invalid assignment target " ++ ticked target
  | notCallable kind => "cannot call a value of type " ++ ticked kind.text
  | arityMismatch name expected got =>
    "function " ++ ticked name ++ " expects " ++ toString expected ++ " argument(s), but "
      ++ toString got ++ " were given"
  | typeMismatch operator left right =>
    "cannot apply " ++ ticked operator.text ++ " to " ++ ticked left.text ++ " and "
      ++ ticked right.text
  | notAnObject key kind =>
    "cannot access property " ++ ticked key ++ " on a value of type " ++ ticked kind.text
  | unknownProperty key => "object has no property " ++ ticked key
  | invalidKey kind =>
    "a value of type " ++ ticked kind.text ++ " cannot be used as a property key"
  | native message => message
  | depthExceeded => "too many nested calls"

def title : Fault → String
  | duplicateDeclaration _ => "Duplicate declaration"
  | unresolvedVariable _ => "Unresolved variable"
  | constAssignment _ => "Assignment to constant"
  | invalidTarget _ => "Invalid assignment target"
  | notCallable _ => "Not callable"
  | arityMismatch _ _ _ => "Arity mismatch"
  | typeMismatch _ _ _ => "Type mismatch"
  | notAnObject _ _ => "Not an object"
  | unknownProperty _ => "Unknown property"
  | invalidKey _ => "Invalid property key"
  | native _ => "Native function failed"
  | depthExceeded => "Call depth exceeded"

end Fault
end Scriptlet
