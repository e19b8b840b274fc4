import Mathlib.Logic.Function.Iterate
import Scriptlet.Proofs.Parser.Steps

/-! The rules of the parser, level by level. The rules of one level call those of the level below;
a bound on the depth of a parse is a number of levels, and what the rules do at the lowest level is
what they do when the bound is used up. -/
namespace Scriptlet.Parser

structure Level where
  expression : Parser Expr
  assignee : Parser Expr
  object : Parser Expr
  properties : Parser (List Property)
  property : Parser Property
  operations : Precedence → Parser Expr
  moreOperations : Precedence → Expr → Parser Expr
  operation : Expr → Parser Expr
  calls : Parser Expr
  moreCalls : Expr → Parser Expr
  call : Expr → Parser Expr
  arguments : Parser (List Expr)
  members : Parser Expr
  moreMembers : Expr → Parser Expr
  member : Expr → Parser Expr
  primary : Parser Expr
  statements : Parser (List Statement)

namespace Level

def bounded (bound : Nat) : Level where
  expression := Parser.expression bound
  assignee := Parser.assignee bound
  object := Parser.object bound
  properties := Parser.properties bound
  property := Parser.property bound
  operations := Parser.operations bound
  moreOperations := Parser.moreOperations bound
  operation := Parser.operation bound
  calls := Parser.calls bound
  moreCalls := Parser.moreCalls bound
  call := Parser.call bound
  arguments := Parser.arguments bound
  members := Parser.members bound
  moreMembers := Parser.moreMembers bound
  member := Parser.member bound
  primary := Parser.primary bound
  statements := Parser.statements bound

variable (level : Level)

def declaration : Parser Declaration := Production.declaration level.expression

def statement : Parser Statement := Production.statement level.declaration level.expression

def program : Parser Program := Production.program level.statements

def whole : Parser Program := Production.whole level.program

def next : Level where
  expression := Production.expression level.assignee level.expression
  assignee := Production.assignee level.object level.operations
  object := Production.object level.properties
  properties := Production.properties level.property level.properties
  property := Production.property level.expression
  operations := Production.operations level.calls level.moreOperations
  moreOperations := Production.moreOperations level.operation level.moreOperations
  operation := Production.operation level.operations
  calls := Production.calls level.members level.moreCalls
  moreCalls := Production.moreCalls level.call level.moreCalls
  call := Production.call level.arguments
  arguments := Production.arguments level.expression level.arguments
  members := Production.members level.primary level.moreMembers
  moreMembers := Production.moreMembers level.member level.moreMembers
  member := Production.member level.expression
  primary := Production.primary level.expression
  statements := Production.statements level.statement level.statements

/-- The rules under a greater bound are those of the level above. -/
theorem bounded_succ (bound : Nat) : bounded (bound + 1) = (bounded bound).next := rfl

theorem bounded_add (levels bound : Nat) :
    next^[levels] (bounded bound) = bounded (levels + bound) := by
  induction levels with
  | zero => rw [Nat.zero_add,Function.iterate_zero_apply]
  | succ levels ih => rw [Function.iterate_succ_apply',ih,← bounded_succ,Nat.add_right_comm]

end Level
end Scriptlet.Parser
