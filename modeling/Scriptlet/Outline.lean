/-! Structured descriptions of values, written on one line or indented. -/
namespace Scriptlet

mutual
inductive Outline where
  | atom (text : String)
  | record (name : String) (fields : List Outline.Field)
  | wrapped (name : String) (inner : Outline)
  | sequence (items : List Outline)
inductive Outline.Field where
  | labelled (label : String) (value : Outline)
end

namespace Outline

def joined (separator : String) (texts : List String) : String :=
  String.intercalate separator texts

mutual
def inline : Outline → String
  | .atom text => text
  | .record name fields =>
    if fields.isEmpty then name
    else name ++ " \x7b " ++ joined ", " (inlineFields fields) ++ " \x7d"
  | .wrapped name inner => name ++ "(" ++ inner.inline ++ ")"
  | .sequence items => "[" ++ joined ", " (inlineItems items) ++ "]"
def inlineFields : List Field → List String
  | [] => []
  | field :: rest => field.inline :: inlineFields rest
def inlineItems : List Outline → List String
  | [] => []
  | item :: rest => item.inline :: inlineItems rest
def Field.inline : Field → String
  | .labelled label value => label ++ ": " ++ value.inline
end

def indent (depth : Nat) : String := String.ofList (List.replicate (4 * depth) ' ')

def entry (depth : Nat) (text : String) : String := indent (depth + 1) ++ text ++ ",\n"

mutual
/-- One part a line, each four columns deeper than what holds it and followed by a comma. -/
def indented (depth : Nat) : Outline → String
  | .atom text => text
  | .record name fields =>
    if fields.isEmpty then name
    else name ++ " \x7b\n" ++ String.join (indentedFields depth fields) ++ indent depth ++ "\x7d"
  | .wrapped name inner =>
    name ++ "(\n" ++ entry depth (inner.indented (depth + 1)) ++ indent depth ++ ")"
  | .sequence items =>
    if items.isEmpty then "[]"
    else "[\n" ++ String.join (indentedItems depth items) ++ indent depth ++ "]"
def indentedFields (depth : Nat) : List Field → List String
  | [] => []
  | field :: rest => entry depth (field.indented depth) :: indentedFields depth rest
def indentedItems (depth : Nat) : List Outline → List String
  | [] => []
  | item :: rest => entry depth (item.indented (depth + 1)) :: indentedItems depth rest
def Field.indented (depth : Nat) : Field → String
  | .labelled label value => label ++ ": " ++ value.indented (depth + 1)
end

end Outline
end Scriptlet
