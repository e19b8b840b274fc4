import Scriptlet.Number.Remainder
import Scriptlet.Tree.Source
import Scriptlet.World

/-! Evaluation of expressions and statements in a scope. What a call does is a parameter,
so that evaluation follows the tree. -/
namespace Scriptlet
open Act

abbrev Call := Value → List Value → ScopeId → Span → Eval Value

namespace Eval

def fail {α : Type} (fault : Fault) (span : Span) : Eval α := throw ⟨fault,span⟩

/-- Division by zero is not a fault: it gives an infinity or not-a-number. -/
def arithmetic (operator : Operator) (left right : Float) : Float :=
  match operator with
  | .plus => left + right
  | .minus => left - right
  | .times => left * right
  | .divide => left / right
  | .remainder => Number.remainder left right

def operate (operator : Operator) (left right : Value) (span : Span) : Eval Value :=
  match left,right with
  | .number left,.number right => return .number (arithmetic operator left right)
  | left,right => fail (.typeMismatch operator left.kind right.kind) span

def keyText (key : Value) (span : Span) : Eval String :=
  match key with
  | .number _ | .boolean _ | .null => text key
  | other => fail (.invalidKey other.kind) span

def objectOf (value : Value) (key : String) (span : Span) : Eval ObjectId :=
  match value with
  | .object id => return id
  | other => fail (.notAnObject key other.kind) span

def readProperty (object : ObjectId) (key : String) (span : Span) : Eval Value := do
  match (← get).store.property? object key with
  | some value => return value
  | none => fail (.unknownProperty key) span

variable (call : Call) (scope : ScopeId)

mutual
def expression : Expr → Eval Value
  | .number value _ => return .number value
  | .identifier name => located name.span (lookup scope name.name)
  | .object content _ => do
    let properties ← properties content .empty
    addObject properties
  | .call callee given span => do
    let callee ← expression callee
    let given ← arguments given
    call callee given scope span
  | .binary operator left right span => do
    let left ← expression left
    let right ← expression right
    operate operator left right span
  | .member object property _ => do
    let value ← expression object
    let id ← objectOf value property.name object.span
    readProperty id property.name property.span
  | .index object key _ => do
    let value ← expression object
    let name ← keyText (← expression key) key.span
    let id ← objectOf value name object.span
    readProperty id name key.span
  | .assign (.identifier name) value span => do
    let value ← expression value
    located span (assign scope name.name value)
  | .assign (.member object property _) value _ => do
    let holder ← expression object
    let id ← objectOf holder property.name object.span
    let value ← expression value
    writeProperty id property.name value
    return value
  | .assign (.index object key _) value _ => do
    let holder ← expression object
    let name ← keyText (← expression key) key.span
    let id ← objectOf holder name object.span
    let value ← expression value
    writeProperty id name value
    return value
  | .assign target _ _ => fail (.invalidTarget target.source) target.span

def arguments : List Expr → Eval (List Value)
  | [] => return []
  | argument :: rest => do
    let first ← expression argument
    let rest ← arguments rest
    return first :: rest

/-- A later property of the same name wins. -/
def properties : List Property → Table Value → Eval (Table Value)
  | [],table => return table
  | property :: rest,table => do
    let value ← propertyValue property
    properties rest (table.insert property.key value)

def propertyValue : Property → Eval Value
  | .shorthand key span => located span (lookup scope key)
  | .valued _ value _ => expression value
end

def declaration (content : Declaration) : Eval Value := do
  let value ← match content.value with
    | some value => expression call scope value
    | none => pure .null
  located content.span (declare scope content.identifier.name value content.constant)

def statement (content : Statement) : Eval Value := do
  log (.statement content.span)
  match content with
  | .declaration content => declaration call scope content
  | .expression content => expression call scope content

def body (statements : List Statement) : Eval Value :=
  statements.foldlM (fun _ content => statement call scope content) .null

end Eval
end Scriptlet
