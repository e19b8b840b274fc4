import Scriptlet.Lexer

/-! Why a token stream is no program. -/
namespace Scriptlet

inductive ParseFault where
  | expectedIdent
  | missingConstValue
  | invalidNumber (literal : String)
  | unexpectedEof
  | unexpectedToken (token : Token) (expected : List String)
  | lexical (error : LexError)
  deriving DecidableEq,Repr

structure ParseError where
  fault : ParseFault
  span : Span
  deriving DecidableEq,Repr

namespace ParseFault

def message : ParseFault → String
  | expectedIdent => "Expected identifier"
  | missingConstValue => "Constant requires a value"
  | invalidNumber _ => "Invalid numeric literal"
  | unexpectedEof => "Unexpected end of file"
  | unexpectedToken _ _ => "Not expected this"
  | lexical error => error.message

def found : Token → String
  | .number _ => "a Number"
  | .ident _ => "an Identifier"
  | token =>
    if token.isReserved then "the keyword `" ++ token.literal ++ "`"
    else "`" ++ token.literal ++ "`"

def notes : ParseFault → List String
  | missingConstValue => ["Add an initializer: `const name = value;`"]
  | invalidNumber literal => ["`" ++ literal ++ "` is not a number"]
  | unexpectedToken token expected =>
    ("Found " ++ found token ++ ", expected one of: ") :: expected.map ("- " ++ ·)
  | lexical error => error.notes
  | _ => []

end ParseFault
end Scriptlet
