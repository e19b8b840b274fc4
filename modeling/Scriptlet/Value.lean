import Scriptlet.Tree

/-! What expressions evaluate to. Objects live in a store and are known by their index;
functions carry an identity of their own. -/
namespace Scriptlet

abbrev ScopeId := Nat
abbrev ObjectId := Nat

/-- What a native function does when it is called; a custom routine is known to its host
by a label. -/
inductive Routine where
  | print
  | time
  | custom (label : String)
  deriving DecidableEq,Repr

structure Native where
  identity : Nat
  name : String
  routine : Routine
  deriving DecidableEq,Repr

structure Closure where
  identity : Nat
  name : String
  parameters : List String
  body : List Statement
  scope : ScopeId

inductive Value where
  | number (value : Float)
  | boolean (value : Bool)
  | null
  | object (id : ObjectId)
  | native (function : Native)
  | closure (function : Closure)

inductive Kind where
  | number
  | boolean
  | null
  | object
  | native
  | function
  deriving DecidableEq,Repr

def Kind.text : Kind → String
  | number => "number"
  | boolean => "boolean"
  | null => "null"
  | object => "object"
  | native => "native-fn"
  | function => "function"

namespace Value

def kind : Value → Kind
  | .number _ => .number
  | .boolean _ => .boolean
  | .null => .null
  | .object _ => .object
  | .native _ => .native
  | .closure _ => .function

/-- Numbers compare as numbers, objects and functions by identity. -/
def same : Value → Value → Bool
  | .number left,.number right => left == right
  | .boolean left,.boolean right => left == right
  | .null,.null => true
  | .object left,.object right => left == right
  | .native left,.native right => left.identity == right.identity
  | .closure left,.closure right => left.identity == right.identity
  | _,_ => false

end Value
end Scriptlet
