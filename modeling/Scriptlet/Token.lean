import Scriptlet.Span
import Scriptlet.Text.Quoted

/-! The words of the language, each with its text in the source. -/
namespace Scriptlet

inductive Operator where
  | plus
  | minus
  | times
  | divide
  | remainder
  deriving DecidableEq,Repr

namespace Operator

def char : Operator → Char
  | plus => '+'
  | minus => '-'
  | times => '*'
  | divide => '/'
  | remainder => '%'

def text (operator : Operator) : String := String.singleton operator.char

def isAdditive (operator : Operator) : Bool :=
  operator = plus || operator = minus

def isMultiplicative (operator : Operator) : Bool :=
  !operator.isAdditive

def label : Operator → String
  | plus => "Plus"
  | minus => "Minus"
  | times => "Mult"
  | divide => "Div"
  | remainder => "Rem"

end Operator

inductive Token where
  | number (digits : String)
  | ident (name : String)
  | letWord
  | constWord
  | operator (sign : Operator)
  | equals
  | comma
  | colon
  | semicolon
  | dot
  | leftParen
  | rightParen
  | leftBrace
  | rightBrace
  | leftBracket
  | rightBracket
  | eof
  deriving DecidableEq,Repr

namespace Token

def isReserved (token : Token) : Bool :=
  token = letWord || token = constWord

def literal : Token → String
  | number digits => digits
  | ident name => name
  | letWord => "let"
  | constWord => "const"
  | operator sign => sign.text
  | equals => "="
  | comma => ","
  | colon => ":"
  | semicolon => ";"
  | dot => "."
  | leftParen => "("
  | rightParen => ")"
  | leftBrace => "\x7b"
  | rightBrace => "\x7d"
  | leftBracket => "["
  | rightBracket => "]"
  | eof => "EndOfFile"

def describe : Token → String
  | number digits => "Number(" ++ Text.quoted digits ++ ")"
  | ident name => "Ident(" ++ Text.quoted name ++ ")"
  | letWord => "Let"
  | constWord => "Const"
  | operator sign => "BinaryOperator(" ++ sign.label ++ ")"
  | equals => "Equals"
  | comma => "Comma"
  | colon => "Colon"
  | semicolon => "Semicolon"
  | dot => "Dot"
  | leftParen => "LParen"
  | rightParen => "RParen"
  | leftBrace => "LBrace"
  | rightBrace => "RBrace"
  | leftBracket => "LSBracket"
  | rightBracket => "RSBracket"
  | eof => "Eof"

def keyword? (word : String) : Option Token :=
  if word = "let" then some letWord
  else if word = "const" then some constWord
  else none

def symbol? : Char → Option Token
  | '(' => some leftParen
  | ')' => some rightParen
  | '{' => some leftBrace
  | '}' => some rightBrace
  | '[' => some leftBracket
  | ']' => some rightBracket
  | ',' => some comma
  | ':' => some colon
  | ';' => some semicolon
  | '.' => some dot
  | '=' => some equals
  | '+' => some (operator .plus)
  | '-' => some (operator .minus)
  | '*' => some (operator .times)
  | '/' => some (operator .divide)
  | '%' => some (operator .remainder)
  | _ => none

end Token

structure Lexeme where
  token : Token
  span : Span
  deriving DecidableEq,Repr

inductive Precedence where
  | lowest
  | sum
  | product
  deriving DecidableEq,Repr

namespace Precedence

def rank : Precedence → Nat
  | lowest => 0
  | sum => 1
  | product => 2

def ofToken : Token → Precedence
  | .operator sign => if sign.isAdditive then sum else product
  | _ => lowest

end Precedence
end Scriptlet
