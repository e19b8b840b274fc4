import Scriptlet.Fault
import Scriptlet.Table

/-! The store of scopes and objects. Both are numbered in the order of their creation and
never removed; a scope's parent is older than the scope. -/
namespace Scriptlet

structure Scope where
  values : Table Value
  constants : List String
  parent : Option ScopeId

structure Store where
  scopes : Array Scope
  objects : Array (Table Value)
  identities : Nat

namespace Store

def empty : Store := ⟨#[],#[],0⟩

def addScope (store : Store) (parent : Option ScopeId) : ScopeId × Store :=
  (store.scopes.size,{store with scopes := store.scopes.push ⟨.empty,[],parent⟩})

def addObject (store : Store) (properties : Table Value) : ObjectId × Store :=
  (store.objects.size,{store with objects := store.objects.push properties})

def parent? (store : Store) (scope : ScopeId) : Option ScopeId :=
  (store.scopes[scope]?).bind (·.parent)

def value? (store : Store) (scope : ScopeId) (name : String) : Option Value :=
  (store.scopes[scope]?).bind (·.values.get? name)

def declares (store : Store) (name : String) (scope : ScopeId) : Bool :=
  (store.value? scope name).isSome

def isConstant (store : Store) (name : String) (scope : ScopeId) : Bool :=
  match store.scopes[scope]? with
  | some content => content.constants.contains name
  | none => false

def names (store : Store) (scope : ScopeId) : List String :=
  match store.scopes[scope]? with
  | some scope => scope.values.names
  | none => []

def chainWithin (store : Store) : Nat → ScopeId → List ScopeId
  | 0,_ => []
  | depth + 1,scope =>
    scope :: (match store.parent? scope with
      | some parent => chainWithin store depth parent
      | none => [])

/-- The scope and all scopes around it, nearest first. Parents are older, so that there
are no more of them than scopes. -/
def chain (store : Store) (scope : ScopeId) : List ScopeId :=
  store.chainWithin store.scopes.size scope

def resolve? (store : Store) (scope : ScopeId) (name : String) : Option ScopeId :=
  (store.chain scope).find? (store.declares name)

def lookup (store : Store) (scope : ScopeId) (name : String) : Except Fault Value :=
  match (store.resolve? scope name).bind (store.value? · name) with
  | some value => .ok value
  | none => .error (.unresolvedVariable name)

/-- Writes the value; a constant is marked as such, and no mark is ever taken away. -/
def bind (store : Store) (scope : ScopeId) (name : String) (value : Value) (constant : Bool) :
    Store :=
  {store with scopes := store.scopes.modify scope fun content =>
    {content with
      values := content.values.insert name value
      constants := if constant then name :: content.constants else content.constants}}

def declare (store : Store) (scope : ScopeId) (name : String) (value : Value) (constant : Bool) :
    Except Fault Store :=
  if store.declares name scope then .error (.duplicateDeclaration name)
  else .ok (store.bind scope name value constant)

def assign (store : Store) (scope : ScopeId) (name : String) (value : Value) :
    Except Fault Store :=
  match store.resolve? scope name with
  | none => .error (.unresolvedVariable name)
  | some owner =>
    if store.isConstant name owner then .error (.constAssignment name)
    else .ok (store.bind owner name value false)

def property? (store : Store) (object : ObjectId) (key : String) : Option Value :=
  (store.objects[object]?).bind (·.get? key)

def properties (store : Store) (object : ObjectId) : List (String × Value) :=
  match store.objects[object]? with
  | some table => table.entries
  | none => []

def writeProperty (store : Store) (object : ObjectId) (key : String) (value : Value) : Store :=
  {store with objects := store.objects.modify object fun properties =>
    properties.insert key value}

def addNative (store : Store) (name : String) (routine : Routine) : Native × Store :=
  (⟨store.identities,name,routine⟩,{store with identities := store.identities + 1})

def addClosure (store : Store) (name : String) (parameters : List String)
    (body : List Statement) (scope : ScopeId) : Closure × Store :=
  (⟨store.identities,name,parameters,body,scope⟩,
    {store with identities := store.identities + 1})

def addGlobal (store : Store) : ScopeId × Store :=
  let (scope,store) := store.addScope none
  let (print,store) := store.addNative "print" .print
  let (time,store) := store.addNative "time" .time
  let constants := [("true",Value.boolean true),("false",.boolean false),("null",.null),
    ("print",.native print),("time",.native time)]
  (scope,constants.foldl (fun store constant =>
    store.bind scope constant.1 constant.2 true) store)

end Store
end Scriptlet
