import Scriptlet.Token
import Scriptlet.Text.Alphabetic

/-! Reading tokens from characters that carry their positions. Positions may have gaps
or go backwards: a token starts where its first character stands and stops where the
character after it stands. Sums of positions wrap around. -/
namespace Scriptlet

structure LexError where
  char : Char
  span : Span
  deriving DecidableEq,Repr

namespace LexError

def message (_ : LexError) : String := "Unrecognized character found in source"

def notes (error : LexError) : List String :=
  ["Found " ++ Text.quotedChar error.char]

end LexError

class Alphabet where
  letter : Char → Bool

instance unicode : Alphabet := ⟨Text.isAlphabetic⟩

structure Cursor where
  rest : List (UInt32 × Char)
  final : UInt32
  deriving Repr

namespace Cursor

def room (c : Char) : UInt32 := .ofNat c.utf8Size

def ofPositioned (chars : List (UInt32 × Char)) : Cursor :=
  ⟨chars,match chars.getLast? with
    | none => 0
    | some (position,c) => position + room c⟩

def positions (offset : UInt32) : List Char → List (UInt32 × Char)
  | [] => []
  | c :: rest => (offset,c) :: positions (offset + room c) rest

def ofChars (chars : List Char) : Cursor := ofPositioned (positions 0 chars)

def ofText (text : String) : Cursor :=
  ofPositioned (text.positions.toList.map fun place =>
    (.ofNat place.1.offset.byteIdx,place.1.get place.2))

def position (cursor : Cursor) : UInt32 :=
  match cursor.rest with
  | [] => cursor.final
  | (position,_) :: _ => position

def isBlank (c : Char) : Bool :=
  c = ' ' || c = '\n' || c = '\t' || c = '\r'

def skipWhile (keep : Char → Bool) (cursor : Cursor) : Cursor :=
  {cursor with rest := cursor.rest.dropWhile fun item => keep item.2}

def run (keep : Char → Bool) (cursor : Cursor) : String :=
  String.ofList ((cursor.rest.takeWhile fun item => keep item.2).map (·.2))

def wordToken (word : String) : Token :=
  (Token.keyword? word).getD (.ident word)

section
variable [Alphabet]

/-- The next token or fault, and the characters after it. At the end of the characters
every further item is the end token. -/
def next (cursor : Cursor) : Except LexError Lexeme × Cursor :=
  let cursor := cursor.skipWhile isBlank
  match cursor.rest with
  | [] => (.ok ⟨.eof,⟨cursor.final,cursor.final⟩⟩,cursor)
  | (start,c) :: rest =>
    let upTo (token : Token) (after : Cursor) : Except LexError Lexeme × Cursor :=
      (.ok ⟨token,⟨start,after.position⟩⟩,after)
    let single : Cursor := {cursor with rest := rest}
    match Token.symbol? c with
    | some token => upTo token single
    | none =>
      if c.isDigit then upTo (.number (cursor.run Char.isDigit)) (cursor.skipWhile Char.isDigit)
      else if Alphabet.letter c then
        upTo (wordToken (cursor.run Alphabet.letter)) (cursor.skipWhile Alphabet.letter)
      else (.error ⟨c,⟨start,single.position⟩⟩,single)

def items : Nat → Cursor → List (Except LexError Lexeme)
  | 0,_ => []
  | count + 1,cursor => cursor.next.1 :: items count cursor.next.2

/-- The tokens up to and including the end token, or the first fault with the tokens
before it. Every item but the end token takes a character, so that `count` suffices
when it exceeds the number of characters. -/
def lexemes : Nat → Cursor → List Lexeme × Option LexError
  | 0,_ => ([],none)
  | count + 1,cursor =>
    match cursor.next with
    | (.error error,_) => ([],some error)
    | (.ok lexeme,after) =>
      if lexeme.token = .eof then ([lexeme],none)
      else
        let (rest,fault) := lexemes count after
        (lexeme :: rest,fault)

def scan (cursor : Cursor) : List Lexeme × Option LexError :=
  cursor.lexemes (cursor.rest.length + 1)

end
end Cursor

def tokenize [Alphabet] (text : String) : Except LexError (List Lexeme) :=
  match (Cursor.ofText text).scan with
  | (_,some error) => .error error
  | (lexemes,none) => .ok lexemes

end Scriptlet
