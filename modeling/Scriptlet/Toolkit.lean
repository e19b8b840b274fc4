import Scriptlet.Host

/-! A set of custom routines that show a host what calls are given. A missing argument
is null. -/
namespace Scriptlet.Toolkit
open Act

abbrev Invoke := Value → List Value → ScopeId → Act Fault Value

def argument (arguments : List Value) (index : Nat) : Value := arguments.getD index .null

def scopeObject (scope : ScopeId) : Act Fault Value := do
  let store := (← get).store
  let properties := (store.names scope).foldl (fun table name =>
    match store.value? scope name with
    | some value => table.insert name value
    | none => table) Table.empty
  addObject properties

def routine (label : String) (invoke : Invoke) (arguments : List Value) (scope : ScopeId) :
    Act Fault Value := do
  let first := argument arguments 0
  match label with
  | "id" => return first
  | "last" => return arguments.getLast?.getD .null
  | "argc" => return .number arguments.length.toFloat
  | "eq" => return .boolean (first.same (argument arguments 1))
  | "pick" =>
    match first with
    | .boolean true => return argument arguments 1
    | _ => return argument arguments 2
  | "fail" =>
    let store := (← get).store
    throw (.native (String.intercalate " " (arguments.map store.text)))
  | "peek" => lookup scope "x"
  | "poke" => assign scope "x" first
  | "make" => declare scope "made" first false
  | "scope" => scopeObject scope
  | "apply" => invoke first (arguments.drop 1) scope
  | _ => throw (.native ("unknown routine " ++ label))

def host : Host where
  custom := routine
  depth := Host.standard.depth

end Scriptlet.Toolkit
