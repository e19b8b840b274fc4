import Scriptlet.Outline
import Scriptlet.Tree
import Scriptlet.Number.Layout

/-! The full description of a tree, node by node with all places. -/
namespace Scriptlet
open Outline

def Span.outline (span : Span) : Outline :=
  .record "SrcSpan" [.labelled "start" (.atom (toString span.start)),
    .labelled "end" (.atom (toString span.stop))]

namespace Outline

def placed (name : String) (fields : List Field) (span : Span) : Outline :=
  .record name (fields ++ [.labelled "location" span.outline])

def truth (value : Bool) : Outline := .atom (if value then "true" else "false")

def node (kind name : String) (fields : List Field) (span : Span) : Outline :=
  .wrapped kind (placed name fields span)

end Outline

def Identifier.outline (identifier : Identifier) : Outline :=
  placed "Identifier" [.labelled "symbol" (.atom (Text.quoted identifier.name))] identifier.span

mutual
def Expr.outline : Expr → Outline
  | .number value span => node "NumericLiteral" "NumericLiteral"
      [.labelled "value" (.atom (Number.precise.text value))] span
  | .identifier name => .wrapped "Identifier" name.outline
  | .assign target value span => node "Assignment" "AssignmentExpr"
      [.labelled "assignee" target.outline,.labelled "value" value.outline] span
  | .binary operator left right span => node "Binary" "BinaryExpr"
      [.labelled "left" left.outline,.labelled "operator" (.atom operator.label),
        .labelled "right" right.outline] span
  | .object properties span => node "Object" "ObjectLiteral"
      [.labelled "properties" (.sequence (propertyOutlines properties))] span
  | .call callee arguments span => node "Call" "CallExpr"
      [.labelled "caller" callee.outline,
        .labelled "args" (.sequence (argumentOutlines arguments))] span
  | .member object property span => node "Member" "MemberExpr"
      [.labelled "object" object.outline,
        .labelled "property" (.wrapped "Identifier" property.outline),
        .labelled "computed" (truth false)] span
  | .index object key span => node "Member" "MemberExpr"
      [.labelled "object" object.outline,.labelled "property" key.outline,
        .labelled "computed" (truth true)] span
def propertyOutlines : List Property → List Outline
  | [] => []
  | property :: rest => property.outline :: propertyOutlines rest
def argumentOutlines : List Expr → List Outline
  | [] => []
  | argument :: rest => argument.outline :: argumentOutlines rest
def Property.outline : Property → Outline
  | .shorthand key span => placed "Property"
      [.labelled "key" (.atom (Text.quoted key)),.labelled "value" (.atom "None")] span
  | .valued key value span => placed "Property"
      [.labelled "key" (.atom (Text.quoted key)),
        .labelled "value" (.wrapped "Some" value.outline)] span
end

def Declaration.outline (declaration : Declaration) : Outline :=
  let value := match declaration.value with
    | some value => .wrapped "Some" value.outline
    | none => .atom "None"
  placed "VarDeclaration"
    [.labelled "identifier" declaration.identifier.outline,
      .labelled "constant" (truth declaration.constant),.labelled "value" value] declaration.span

def Statement.outline : Statement → Outline
  | .declaration content => .wrapped "VarDeclaration" content.outline
  | .expression content => .wrapped "Expression" content.outline

def Program.outline (program : Program) : Outline :=
  placed "Program"
    [.labelled "statements" (.sequence (program.statements.map Statement.outline))] program.span

def Program.dump (program : Program) : String := program.outline.indented 0

end Scriptlet
