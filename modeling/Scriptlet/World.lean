import Scriptlet.Event
import Scriptlet.Store.Text

/-! What an evaluation reads and changes: the store, the text it prints, the events it
leaves for a log, and the clock. -/
namespace Scriptlet

abbrev Reading := Except String Float

structure World where
  store : Store
  printed : String
  events : List Event
  clock : Nat → Reading

abbrev Act (ε : Type) := EStateM ε World

abbrev Eval := Act RuntimeError

namespace Act
variable {ε : Type}

def located {α : Type} (span : Span) (act : Act Fault α) : Eval α := fun world =>
  match act world with
  | .ok value world => .ok value world
  | .error fault world => .error ⟨fault,span⟩ world

def unlocated {α : Type} (act : Eval α) : Act Fault α := fun world =>
  match act world with
  | .ok value world => .ok value world
  | .error error world => .error error.fault world

def log (event : Event) : Act ε Unit :=
  modify fun world => {world with events := event :: world.events}

def printLine (line : String) : Act ε Unit :=
  modify fun world => {world with printed := world.printed ++ line ++ "\n"}

/-- Every look at the clock takes the next reading. -/
def readClock : Act ε Reading :=
  modifyGet fun world => (world.clock 0,{world with clock := fun look => world.clock (look + 1)})

def text (value : Value) : Act ε String := return (← get).store.text value

def addScope (parent : Option ScopeId) : Act ε ScopeId :=
  modifyGet fun world =>
    let (scope,store) := world.store.addScope parent
    (scope,{world with store := store})

def addObject (properties : Table Value) : Act ε Value :=
  modifyGet fun world =>
    let (object,store) := world.store.addObject properties
    (.object object,{world with store := store})

def writeProperty (object : ObjectId) (key : String) (value : Value) : Act ε Unit :=
  modify fun world => {world with store := world.store.writeProperty object key value}

def lookup (scope : ScopeId) (name : String) : Act Fault Value := do
  match (← get).store.lookup scope name with
  | .ok value => return value
  | .error fault => throw fault

def declare (scope : ScopeId) (name : String) (value : Value) (constant : Bool) :
    Act Fault Value := do
  match (← get).store.declare scope name value constant with
  | .error fault => throw fault
  | .ok store =>
    log (.declare name constant)
    modify fun world => {world with store := store}
    return value

def assign (scope : ScopeId) (name : String) (value : Value) : Act Fault Value := do
  match (← get).store.assign scope name value with
  | .error fault => throw fault
  | .ok store =>
    modify fun world => {world with store := store}
    return value

def declareNative (scope : ScopeId) (name : String) (routine : Routine) : Act Fault Value := do
  let native ← modifyGet fun world =>
    let (native,store) := world.store.addNative name routine
    (native,{world with store := store})
  declare scope name (.native native) true

def addClosure (name : String) (parameters : List String) (body : List Statement)
    (scope : ScopeId) : Act ε Value :=
  modifyGet fun world =>
    let (closure,store) := world.store.addClosure name parameters body scope
    (.closure closure,{world with store := store})

end Act
end Scriptlet
