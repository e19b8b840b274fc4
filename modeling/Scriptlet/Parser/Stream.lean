import Scriptlet.Parser.Feed

/-! Token streams with two tokens in view. A stream is the tokens before its first fault or
its end, and what lies behind them; nothing behind a fault is ever read. -/
namespace Scriptlet

inductive Ending where
  | closed
  | endless
  | failed (error : LexError)
  deriving DecidableEq,Repr

structure Stream where
  tokens : List Lexeme
  ending : Ending
  deriving DecidableEq,Repr

namespace Stream

def ofLexemes (tokens : List Lexeme) : Stream := ⟨tokens,.closed⟩

def ofItems : List (Except LexError Lexeme) → Stream
  | [] => ⟨[],.closed⟩
  | .error error :: _ => ⟨[],.failed error⟩
  | .ok lexeme :: rest =>
    let stream := ofItems rest
    ⟨lexeme :: stream.tokens,stream.ending⟩

def ofCursor (cursor : Cursor) : Stream :=
  match cursor.scan with
  | (tokens,some error) => ⟨tokens,.failed error⟩
  | (tokens,none) => ⟨tokens,.endless⟩

def ofText (text : String) : Stream := ofCursor (Cursor.ofText text)

def ofChars (chars : List Char) : Stream := ofCursor (Cursor.ofChars chars)

def current (stream : Stream) : Option Lexeme := stream.tokens.head?

def step (stream : Stream) : Stream :=
  match stream.tokens,stream.ending with
  | [_],.endless => stream
  | _ :: rest,_ => {stream with tokens := rest}
  | [],_ => stream

def next (stream : Stream) : Option Lexeme :=
  match stream.tokens,stream.ending with
  | [last],.endless => some last
  | _ :: second :: _,_ => some second
  | _,_ => none

/-- The fault, once the tokens in view have reached it. -/
def fault (stream : Stream) : Option LexError :=
  match stream.tokens,stream.ending with
  | _ :: _ :: _,_ => none
  | _,.failed error => some error
  | _,_ => none

/-- Between two taken tokens only a few levels open. -/
def bound (stream : Stream) : Nat := 8 * (stream.tokens.length + 2)

instance : Feed Stream := ⟨current,step,fault,bound⟩

@[simp] theorem feed_current (stream : Stream) : Feed.current stream = stream.current := rfl

@[simp] theorem feed_step (stream : Stream) : Feed.step stream = stream.step := rfl

@[simp] theorem feed_fault (stream : Stream) : Feed.fault stream = stream.fault := rfl

def endSpan (stream : Stream) : Span := Feed.endSpan stream

def isAt (stream : Stream) (token : Token) : Bool := Feed.isAt stream token

def notEof (stream : Stream) : Bool := Feed.notEof stream

def precedence (stream : Stream) : Precedence := Feed.precedence stream

end Stream
end Scriptlet
