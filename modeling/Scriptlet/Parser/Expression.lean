import Scriptlet.Parser.Production

/-! Expressions. Every parser takes a bound on the depth of its work. -/
namespace Scriptlet.Parser
variable {σ α : Type} [Feed σ]

mutual
def expression : Nat → ParserOn σ Expr
  | 0 => failAtEnd
  | bound + 1 => Production.expression (assignee bound) (expression bound)

def assignee : Nat → ParserOn σ Expr
  | 0 => failAtEnd
  | bound + 1 => Production.assignee (object bound) (operations bound)

def object : Nat → ParserOn σ Expr
  | 0 => failAtEnd
  | bound + 1 => Production.object (properties bound)

def properties : Nat → ParserOn σ (List Property)
  | 0 => failAtEnd
  | bound + 1 => Production.properties (property bound) (properties bound)

def property : Nat → ParserOn σ Property
  | 0 => failAtEnd
  | bound + 1 => Production.property (expression bound)

/-- Operations that bind tighter than `floor`. -/
def operations : Nat → Precedence → ParserOn σ Expr
  | 0,_ => failAtEnd
  | bound + 1,floor => Production.operations (calls bound) (moreOperations bound) floor

def moreOperations : Nat → Precedence → Expr → ParserOn σ Expr
  | 0,_,_ => failAtEnd
  | bound + 1,floor,left =>
    Production.moreOperations (operation bound) (moreOperations bound) floor left

def operation : Nat → Expr → ParserOn σ Expr
  | 0,_ => failAtEnd
  | bound + 1,left => Production.operation (operations bound) left

def calls : Nat → ParserOn σ Expr
  | 0 => failAtEnd
  | bound + 1 => Production.calls (members bound) (moreCalls bound)

def moreCalls : Nat → Expr → ParserOn σ Expr
  | 0,_ => failAtEnd
  | bound + 1,callee => Production.moreCalls (call bound) (moreCalls bound) callee

def call : Nat → Expr → ParserOn σ Expr
  | 0,_ => failAtEnd
  | bound + 1,callee => Production.call (arguments bound) callee

def arguments : Nat → ParserOn σ (List Expr)
  | 0 => failAtEnd
  | bound + 1 => Production.arguments (expression bound) (arguments bound)

def members : Nat → ParserOn σ Expr
  | 0 => failAtEnd
  | bound + 1 => Production.members (primary bound) (moreMembers bound)

def moreMembers : Nat → Expr → ParserOn σ Expr
  | 0,_ => failAtEnd
  | bound + 1,object => Production.moreMembers (member bound) (moreMembers bound) object

def member : Nat → Expr → ParserOn σ Expr
  | 0,_ => failAtEnd
  | bound + 1,object => Production.member (expression bound) object

def primary : Nat → ParserOn σ Expr
  | 0 => failAtEnd
  | bound + 1 => Production.primary (expression bound)
end

/-- Runs a parser with a bound that the tokens cannot use up. -/
def run (parser : Nat → ParserOn σ α) : ParserOn σ α := do parser (Feed.bound (← get))

end Scriptlet.Parser
