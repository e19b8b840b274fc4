import Scriptlet.Parser.Expression

/-! Statements and whole programs, from tokens, from text or from a stream of characters. -/
namespace Scriptlet
namespace Parser
variable {σ : Type} [Feed σ]

def declaration (bound : Nat) : ParserOn σ Declaration := Production.declaration (expression bound)

def statement (bound : Nat) : ParserOn σ Statement :=
  Production.statement (declaration bound) (expression bound)

def statements : Nat → ParserOn σ (List Statement)
  | 0 => failAtEnd
  | bound + 1 => Production.statements (statement bound) (statements bound)

def program (bound : Nat) : ParserOn σ Program := Production.program (statements bound)

def whole : ParserOn σ Program := Production.whole (run program)

end Parser

def Feed.parse {σ : Type} [Feed σ] (feed : σ) : Except ParseError Program :=
  match Parser.whole feed with
  | .ok program _ => .ok program
  | .error reason _ => .error reason

def Stream.parse (stream : Stream) : Except ParseError Program := Feed.parse stream

def parseText (text : String) : Except ParseError Program := (Stream.ofText text).parse

def parseChars (chars : List Char) : Except ParseError Program := (Stream.ofChars chars).parse

def parseLexemes (lexemes : List Lexeme) : Except ParseError Program :=
  (Stream.ofLexemes lexemes).parse

end Scriptlet
