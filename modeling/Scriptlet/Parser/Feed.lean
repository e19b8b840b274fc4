import Scriptlet.Lexer

/-! Where a parser gets its tokens from. It sees one token at a time and the first fault of the
characters, once that has come into view; it can only step on. -/
namespace Scriptlet

class Feed (σ : Type) where
  current : σ → Option Lexeme
  step : σ → σ
  fault : σ → Option LexError
  /-- A depth that no parse of the tokens ahead reaches. -/
  bound : σ → Nat

namespace Feed
variable {σ : Type} [Feed σ]

def endSpan (feed : σ) : Span :=
  match fault feed with
  | some error => error.span
  | none => Span.empty

def isAt (feed : σ) (token : Token) : Bool :=
  match current feed with
  | some lexeme => lexeme.token = token
  | none => false

def notEof (feed : σ) : Bool :=
  match current feed with
  | some lexeme => lexeme.token != .eof
  | none => false

def precedence (feed : σ) : Precedence :=
  match current feed with
  | some lexeme => Precedence.ofToken lexeme.token
  | none => .lowest

end Feed
end Scriptlet
