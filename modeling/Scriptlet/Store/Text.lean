import Scriptlet.Number.Layout
import Scriptlet.Outline
import Scriptlet.Store

/-! Values and scopes as text. An object that encloses itself is cut off where it comes
again on the path to it. -/
namespace Scriptlet.Store
open Outline

/-- Writes a value. The state holds the objects that are being written around it: an object is
put there first and taken away when it is done, and one that is there already is cut off.
`depth` exceeds the number of the other objects. -/
def write (store : Store) : Nat → Value → StateM (List ObjectId) String
  | _,.number value => return Number.plain.text value
  | _,.boolean value => return if value then "true" else "false"
  | _,.null => return "null"
  | _,.native function => return "<native fn " ++ function.name ++ ">"
  | _,.closure function => return "<fn " ++ function.name ++ ">"
  | 0,.object _ => return "\x7b...\x7d"
  | depth + 1,.object id => do
    if (← get).contains id then return "\x7b...\x7d"
    modify (id :: ·)
    let properties := store.properties id
    if properties.isEmpty then
      modify (·.erase id)
      return "\x7b\x7d"
    let texts ← properties.mapM fun entry =>
      return entry.1 ++ ": " ++ (← store.write depth entry.2)
    modify (·.erase id)
    return "\x7b " ++ String.intercalate ", " texts ++ " \x7d"

def render (store : Store) (depth : Nat) (path : List ObjectId) (value : Value) : String :=
  ((store.write depth value).run path).run.1

def text (store : Store) (value : Value) : String :=
  store.render (store.objects.size + 1) [] value

def quotedList (texts : List String) : Outline :=
  .sequence (texts.map fun text => .atom (Text.quoted text))

/-- A value's make-up; an object shows its address and keys only. -/
def describe (store : Store) (address : ObjectId → String) : Value → String
  | .number value =>
    (record "Number" [.labelled "value" (.atom (Number.precise.text value))]).inline
  | .boolean value =>
    (record "Boolean" [.labelled "value" (.atom (if value then "true" else "false"))]).inline
  | .null => "Null"
  | .object id =>
    let keys := match store.objects[id]? with
      | some properties => properties.names
      | none => []
    (record "Object" [.labelled "at" (.atom (address id)),
      .labelled "keys" (quotedList keys)]).inline
  | .native function => "NativeFunction(" ++ function.name ++ ")"
  | .closure function =>
    "FunctionValue \x7b name: " ++ Text.quoted function.name
      ++ ", parameters: " ++ (quotedList function.parameters).inline ++ ", body: "
      ++ toString function.body.length ++ ", .. \x7d"

def scopeOutline (store : Store) (scope : ScopeId) : Outline :=
  let level (inner : Outline) (scope : ScopeId) : Outline :=
    .record "Environment" [.labelled "names" (quotedList (store.names scope)),
      .labelled "parent" inner]
  match (store.chain scope).reverse with
  | [] => level (.atom "None") scope
  | outermost :: inner =>
    inner.foldl (fun around scope => level (.wrapped "Some" around) scope)
      (level (.atom "None") outermost)

end Scriptlet.Store
