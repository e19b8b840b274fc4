import Scriptlet.Token

/-! Programs as trees. Every node knows its place in the source; parentheses leave no node. -/
namespace Scriptlet

structure Identifier where
  name : String
  span : Span
  deriving DecidableEq,Repr

mutual
inductive Expr where
  | number (value : Float) (span : Span)
  | identifier (name : Identifier)
  | assign (target value : Expr) (span : Span)
  | binary (operator : Operator) (left right : Expr) (span : Span)
  | object (properties : List Property) (span : Span)
  | call (callee : Expr) (arguments : List Expr) (span : Span)
  | member (object : Expr) (property : Identifier) (span : Span)
  | index (object key : Expr) (span : Span)
inductive Property where
  /-- A key that stands for the variable of the same name. -/
  | shorthand (key : String) (span : Span)
  | valued (key : String) (value : Expr) (span : Span)
end

structure Declaration where
  identifier : Identifier
  constant : Bool
  value : Option Expr
  span : Span

inductive Statement where
  | declaration (content : Declaration)
  | expression (content : Expr)

@[ext] structure Program where
  statements : List Statement
  span : Span

def Expr.span : Expr → Span
  | .number _ span => span
  | .identifier name => name.span
  | .assign _ _ span => span
  | .binary _ _ _ span => span
  | .object _ span => span
  | .call _ _ span => span
  | .member _ _ span => span
  | .index _ _ span => span

def Property.key : Property → String
  | .shorthand key _ => key
  | .valued key _ _ => key

def Property.span : Property → Span
  | .shorthand _ span => span
  | .valued _ _ span => span

def Statement.span : Statement → Span
  | .declaration content => content.span
  | .expression content => content.span

/-! Moving every node to another place. -/

def Identifier.mapSpans (move : Span → Span) (identifier : Identifier) : Identifier :=
  {identifier with span := move identifier.span}

mutual
def Expr.mapSpans (move : Span → Span) : Expr → Expr
  | .number value span => .number value (move span)
  | .identifier name => .identifier (name.mapSpans move)
  | .assign target value span => .assign (target.mapSpans move) (value.mapSpans move) (move span)
  | .binary operator left right span =>
    .binary operator (left.mapSpans move) (right.mapSpans move) (move span)
  | .object properties span => .object (mapPropertySpans move properties) (move span)
  | .call callee arguments span =>
    .call (callee.mapSpans move) (mapArgumentSpans move arguments) (move span)
  | .member object property span =>
    .member (object.mapSpans move) (property.mapSpans move) (move span)
  | .index object key span => .index (object.mapSpans move) (key.mapSpans move) (move span)
def mapPropertySpans (move : Span → Span) : List Property → List Property
  | [] => []
  | property :: rest => property.mapSpans move :: mapPropertySpans move rest
def mapArgumentSpans (move : Span → Span) : List Expr → List Expr
  | [] => []
  | argument :: rest => argument.mapSpans move :: mapArgumentSpans move rest
def Property.mapSpans (move : Span → Span) : Property → Property
  | .shorthand key span => .shorthand key (move span)
  | .valued key value span => .valued key (value.mapSpans move) (move span)
end

def Declaration.mapSpans (move : Span → Span) (declaration : Declaration) : Declaration :=
  {declaration with
    identifier := declaration.identifier.mapSpans move
    value := declaration.value.map (Expr.mapSpans move)
    span := move declaration.span}

def Statement.mapSpans (move : Span → Span) : Statement → Statement
  | .declaration content => .declaration (content.mapSpans move)
  | .expression content => .expression (content.mapSpans move)

def Program.mapSpans (move : Span → Span) (program : Program) : Program :=
  ⟨program.statements.map (Statement.mapSpans move),move program.span⟩

/-! Trees without their places. -/

def Expr.erase (expression : Expr) : Expr := expression.mapSpans fun _ => Span.empty

def Property.erase (property : Property) : Property := property.mapSpans fun _ => Span.empty

def Statement.erase (statement : Statement) : Statement := statement.mapSpans fun _ => Span.empty

def Program.erase (program : Program) : Program := program.mapSpans fun _ => Span.empty

theorem mapPropertySpans_eq_map (move : Span → Span) (properties : List Property) :
    mapPropertySpans move properties = properties.map (Property.mapSpans move) := by
  induction properties with
  | nil => simp [mapPropertySpans]
  | cons property rest ih => simp [mapPropertySpans,ih]

theorem mapArgumentSpans_eq_map (move : Span → Span) (arguments : List Expr) :
    mapArgumentSpans move arguments = arguments.map (Expr.mapSpans move) := by
  induction arguments with
  | nil => simp [mapArgumentSpans]
  | cons argument rest ih => simp [mapArgumentSpans,ih]

namespace Expr
variable {left right : Expr} {span : Span}

@[simp] theorem erase_number {value : Float} :
    (number value span).erase = number value Span.empty := rfl

@[simp] theorem erase_identifier {name : Identifier} :
    (identifier name).erase = identifier ⟨name.name,Span.empty⟩ := rfl

@[simp] theorem erase_assign :
    (assign left right span).erase = assign left.erase right.erase Span.empty := rfl

@[simp] theorem erase_binary {operator : Operator} :
    (binary operator left right span).erase =
      binary operator left.erase right.erase Span.empty := rfl

@[simp] theorem erase_object {properties : List Property} :
    (object properties span).erase = object (properties.map Property.erase) Span.empty := by
  simp only [erase,mapSpans,mapPropertySpans_eq_map]
  rfl

@[simp] theorem erase_call {arguments : List Expr} :
    (call left arguments span).erase = call left.erase (arguments.map erase) Span.empty := by
  simp only [erase,mapSpans,mapArgumentSpans_eq_map]
  rfl

@[simp] theorem erase_member {name : Identifier} :
    (member left name span).erase = member left.erase ⟨name.name,Span.empty⟩ Span.empty := rfl

@[simp] theorem erase_index :
    (index left right span).erase = index left.erase right.erase Span.empty := rfl

end Expr

@[simp] theorem Property.erase_shorthand {key : String} {span : Span} :
    (shorthand key span).erase = shorthand key Span.empty := rfl

@[simp] theorem Property.erase_valued {key : String} {value : Expr} {span : Span} :
    (valued key value span).erase = valued key value.erase Span.empty := rfl

@[simp] theorem Statement.erase_declaration {identifier : Identifier} {constant : Bool}
    {value : Option Expr} {span : Span} :
    (declaration ⟨identifier,constant,value,span⟩).erase =
      declaration ⟨⟨identifier.name,Span.empty⟩,constant,value.map Expr.erase,Span.empty⟩ := rfl

@[simp] theorem Statement.erase_expression {content : Expr} :
    (expression content).erase = expression content.erase := rfl

@[simp] theorem Program.erase_statements {program : Program} :
    program.erase.statements = program.statements.map Statement.erase := rfl

@[simp] theorem Program.erase_span {program : Program} : program.erase.span = Span.empty := rfl

end Scriptlet
