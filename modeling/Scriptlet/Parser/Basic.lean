import Scriptlet.Parser.Error
import Scriptlet.Parser.Stream
import Scriptlet.Tree

/-! Steps of the parser. A failing step keeps the tokens as they were when it failed. -/
namespace Scriptlet

abbrev ParserOn (σ : Type) := EStateM ParseError σ

abbrev Parser := ParserOn Stream

namespace Parser
variable {σ α : Type} [Feed σ]

def fail (fault : ParseFault) (span : Span) : ParserOn σ α := throw ⟨fault,span⟩

def failAtEnd : ParserOn σ α := do fail .unexpectedEof (Feed.endSpan (← get))

def unexpected (lexeme : Lexeme) (expected : List String) : ParserOn σ α :=
  fail (.unexpectedToken lexeme.token expected) lexeme.span

def peek : ParserOn σ (Option Lexeme) := return Feed.current (← get)

def step : ParserOn σ Unit := modify Feed.step

def take : ParserOn σ (Option Lexeme) := do
  let lexeme ← peek
  step
  return lexeme

def isAt (token : Token) : ParserOn σ Bool := return Feed.isAt (← get) token

def notEof : ParserOn σ Bool := return Feed.notEof (← get)

def precedence : ParserOn σ Precedence := return Feed.precedence (← get)

def expectToken (token : Token) : ParserOn σ Span := do
  match ← peek with
  | none => failAtEnd
  | some lexeme =>
    if lexeme.token = token then
      step
      return lexeme.span
    else if lexeme.token = .eof then fail .unexpectedEof lexeme.span
    else unexpected lexeme ["`" ++ token.literal ++ "`"]

def expectIdent : ParserOn σ Identifier := do
  match ← peek with
  | none => failAtEnd
  | some ⟨.ident name,span⟩ =>
    step
    return ⟨name,span⟩
  | some lexeme => fail .expectedIdent lexeme.span

end Parser
end Scriptlet
