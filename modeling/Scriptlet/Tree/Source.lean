import Scriptlet.Tree
import Scriptlet.Number.Layout

/-! The source text of a tree. Operations get parentheses, nothing else does. -/
namespace Scriptlet

mutual
def Expr.source : Expr → String
  | .number value _ => Number.plain.text value
  | .identifier name => name.name
  | .assign target value _ => target.source ++ " = " ++ value.source
  | .binary operator left right _ =>
    "(" ++ left.source ++ " " ++ operator.text ++ " " ++ right.source ++ ")"
  | .object properties _ =>
    if properties.isEmpty then "\x7b\x7d"
    else "\x7b " ++ String.intercalate ", " (propertySources properties) ++ " \x7d"
  | .call callee arguments _ =>
    callee.source ++ "(" ++ String.intercalate ", " (argumentSources arguments) ++ ")"
  | .member object property _ => object.source ++ "." ++ property.name
  | .index object key _ => object.source ++ "[" ++ key.source ++ "]"
def propertySources : List Property → List String
  | [] => []
  | property :: rest => property.source :: propertySources rest
def argumentSources : List Expr → List String
  | [] => []
  | argument :: rest => argument.source :: argumentSources rest
def Property.source : Property → String
  | .shorthand key _ => key
  | .valued key value _ => key ++ ": " ++ value.source
end

def Declaration.source (declaration : Declaration) : String :=
  let keyword := if declaration.constant then "const" else "let"
  match declaration.value with
  | some value => keyword ++ " " ++ declaration.identifier.name ++ " = " ++ value.source ++ ";"
  | none => keyword ++ " " ++ declaration.identifier.name ++ ";"

def Statement.source : Statement → String
  | .declaration content => content.source
  | .expression content => content.source ++ ";"

def Program.source (program : Program) : String :=
  String.intercalate "\n" (program.statements.map Statement.source)

end Scriptlet
