import Scriptlet.Parser.Basic
import Scriptlet.Number.Reader

/-! The rules of the grammar, each given the rules it goes on with. From loose to tight:
assignment (to the right), object or operations, sums, products (to the left), calls, members, and
names, numbers and parentheses. -/
namespace Scriptlet.Parser
variable {σ : Type} [Feed σ]

def number : ParserOn σ Expr := do
  match ← take with
  | none => failAtEnd
  | some ⟨.number literal,span⟩ =>
    match Number.read? literal with
    | some value => return .number value span
    | none => fail (.invalidNumber literal) span
  | some lexeme => unexpected lexeme ["a Number"]

def operator : ParserOn σ Operator := do
  match ← take with
  | none => failAtEnd
  | some ⟨.operator operator,_⟩ => return operator
  | some lexeme => unexpected lexeme ["a binary operator"]

namespace Production

def expression (assignee expression : ParserOn σ Expr) : ParserOn σ Expr := do
  let target ← assignee
  if ← isAt .equals then
    step
    let value ← expression
    return .assign target value (target.span.merge value.span)
  else return target

def assignee (object : ParserOn σ Expr) (operations : Precedence → ParserOn σ Expr) :
    ParserOn σ Expr := do
  if ← isAt .leftBrace then object else operations .lowest

def object (properties : ParserOn σ (List Property)) : ParserOn σ Expr := do
  let opening ← expectToken .leftBrace
  let properties ← properties
  let closing ← expectToken .rightBrace
  return .object properties ⟨opening.start,closing.stop⟩

def properties (property : ParserOn σ Property) (properties : ParserOn σ (List Property)) :
    ParserOn σ (List Property) := do
  if (← notEof) && !(← isAt .rightBrace) then
    let first ← property
    let rest ← properties
    return first :: rest
  else return []

def property (expression : ParserOn σ Expr) : ParserOn σ Property := do
  let key ← expectIdent
  if ← isAt .comma then
    step
    return .shorthand key.name key.span
  else if ← isAt .rightBrace then return .shorthand key.name key.span
  else
    let _ ← expectToken .colon
    let value ← expression
    if !(← isAt .rightBrace) then let _ ← expectToken .comma
    return .valued key.name value ⟨key.span.start,value.span.stop⟩

def operations (calls : ParserOn σ Expr) (moreOperations : Precedence → Expr → ParserOn σ Expr)
    (floor : Precedence) : ParserOn σ Expr := do
  let left ← calls
  moreOperations floor left

def moreOperations (operation : Expr → ParserOn σ Expr)
    (moreOperations : Precedence → Expr → ParserOn σ Expr) (floor : Precedence) (left : Expr) :
    ParserOn σ Expr := do
  if floor.rank < (← precedence).rank then
    let whole ← operation left
    moreOperations floor whole
  else return left

def operation (operations : Precedence → ParserOn σ Expr) (left : Expr) : ParserOn σ Expr := do
  let floor ← precedence
  let operator ← operator
  let right ← operations floor
  return .binary operator left right (left.span.merge right.span)

def calls (members : ParserOn σ Expr) (moreCalls : Expr → ParserOn σ Expr) : ParserOn σ Expr := do
  let callee ← members
  moreCalls callee

def moreCalls (call moreCalls : Expr → ParserOn σ Expr) (callee : Expr) : ParserOn σ Expr := do
  if ← isAt .leftParen then
    let whole ← call callee
    moreCalls whole
  else return callee

def call (arguments : ParserOn σ (List Expr)) (callee : Expr) : ParserOn σ Expr := do
  let _ ← expectToken .leftParen
  let arguments ← if ← isAt .rightParen then pure [] else arguments
  let closing ← expectToken .rightParen
  return .call callee arguments ⟨callee.span.start,closing.stop⟩

def arguments (expression : ParserOn σ Expr) (arguments : ParserOn σ (List Expr)) :
    ParserOn σ (List Expr) := do
  let first ← expression
  if ← isAt .comma then
    step
    let rest ← arguments
    return first :: rest
  else return [first]

def members (primary : ParserOn σ Expr) (moreMembers : Expr → ParserOn σ Expr) :
    ParserOn σ Expr := do
  let object ← primary
  moreMembers object

def moreMembers (member moreMembers : Expr → ParserOn σ Expr) (object : Expr) :
    ParserOn σ Expr := do
  if (← isAt .dot) || (← isAt .leftBracket) then
    let whole ← member object
    moreMembers whole
  else return object

def member (expression : ParserOn σ Expr) (object : Expr) : ParserOn σ Expr := do
  match ← take with
  | none => failAtEnd
  | some ⟨.dot,_⟩ =>
    let property ← expectIdent
    return .member object property ⟨object.span.start,property.span.stop⟩
  | some ⟨.leftBracket,_⟩ =>
    let key ← expression
    let closing ← expectToken .rightBracket
    return .index object key ⟨object.span.start,closing.stop⟩
  | some lexeme => unexpected lexeme ["`.`","`[`"]

def primary (expression : ParserOn σ Expr) : ParserOn σ Expr := do
  match ← peek with
  | none => failAtEnd
  | some ⟨.ident _,_⟩ => return .identifier (← expectIdent)
  | some ⟨.number _,_⟩ => number
  | some ⟨.leftParen,_⟩ =>
    step
    let inner ← expression
    let _ ← expectToken .rightParen
    return inner
  | some ⟨.eof,span⟩ => fail .unexpectedEof span
  | some lexeme => unexpected lexeme ["an Identifier, Number or `(`"]

/-- The first token decides whether the declared name is constant; any token but the
constant keyword declares a variable. -/
def declaration (expression : ParserOn σ Expr) : ParserOn σ Declaration := do
  match ← take with
  | none => failAtEnd
  | some opening =>
    let constant := opening.token = .constWord
    let identifier ← expectIdent
    if ← isAt .semicolon then
      if constant then fail .missingConstValue identifier.span
      else
        let closing ← expectToken .semicolon
        return ⟨identifier,constant,none,⟨opening.span.start,closing.stop⟩⟩
    else
      let _ ← expectToken .equals
      let value ← expression
      let closing ← expectToken .semicolon
      return ⟨identifier,constant,some value,⟨opening.span.start,closing.stop⟩⟩

def statement (declaration : ParserOn σ Declaration) (expression : ParserOn σ Expr) :
    ParserOn σ Statement := do
  match ← peek with
  | none => failAtEnd
  | some lexeme =>
    if lexeme.token.isReserved then return .declaration (← declaration)
    else
      let expression ← expression
      if ← isAt .semicolon then step
      return .expression expression

def statements (statement : ParserOn σ Statement) (statements : ParserOn σ (List Statement)) :
    ParserOn σ (List Statement) := do
  if ← notEof then
    let first ← statement
    let rest ← statements
    return first :: rest
  else return []

/-- A program reaches from the start of the source to the end of the token it stops at. -/
def program (statements : ParserOn σ (List Statement)) : ParserOn σ Program := do
  let statements ← statements
  let stop := match ← peek,statements.getLast? with
    | some lexeme,_ => lexeme.span.stop
    | none,some last => last.span.stop
    | none,none => 0
  return ⟨statements,⟨0,stop⟩⟩

/-- A fault of the characters that came into view is reported whatever the tokens before it gave. -/
def whole (program : ParserOn σ Program) : ParserOn σ Program := fun feed =>
  match program feed with
  | .ok program rest =>
    match Feed.fault rest with
    | some error => .error ⟨.lexical error,error.span⟩ rest
    | none => .ok program rest
  | .error reason rest =>
    match Feed.fault rest with
    | some error => .error ⟨.lexical error,error.span⟩ rest
    | none => .error reason rest

end Production
end Scriptlet.Parser
