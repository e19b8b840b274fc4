import Scriptlet.Filter
import Scriptlet.Session
import Scriptlet.Text.Pad
import Scriptlet.Tree.Source

/-! Interactive loops: read a line, evaluate, lex or parse it, and print what comes of it. -/
namespace Scriptlet

/-- Parts of the error output; the moments are filled in when it is written. -/
inductive Chunk where
  | text (content : String)
  | elapsed
  | now
  deriving DecidableEq,Repr

def Chunk.write (elapsed now : String) : Chunk → String
  | .text content => content
  | .elapsed => elapsed
  | .now => now

structure Output where
  standard : String
  errors : List Chunk

instance : Append Output where
  append first second := ⟨first.standard ++ second.standard,first.errors ++ second.errors⟩

def Output.print (text : String) : Output := ⟨text,[]⟩

def Output.complain (chunks : List Chunk) : Output := ⟨"",chunks⟩

structure Terminal where
  filter : Filter
  colour : Bool

namespace Terminal

def report (terminal : Terminal) (error : Error) : Output :=
  .complain [.text (error.markup.render terminal.colour)]

def log (terminal : Terminal) (event : Event) : Output :=
  if terminal.filter.shows event then
    .complain [.now,.text (" " ++ Text.padLeft 5 event.level.name ++ " " ++ event.source ++ ": "
      ++ event.text ++ "\n")]
  else .complain []

def drain (terminal : Terminal) (session : Session) : Output × Session :=
  let world := session.world
  let logged := world.events.reverse.map terminal.log
  (logged.foldl (· ++ ·) (.print world.printed),
    {session with world := {world with printed := "",events := []}})

end Terminal

inductive Loop where
  | evaluate
  | lex
  | parse
  deriving DecidableEq,Repr

namespace Loop

def prompt : Loop → String
  | evaluate => ">> "
  | lex => "lex> "
  | parse => "parse> "

def evaluateLine (terminal : Terminal) (line : String) (session : Session) : Output × Session :=
  let started := terminal.log (.input line)
  match Session.eval line session with
  | .ok value session =>
    let text := session.world.store.text value
    let (output,session) := terminal.drain session
    (started ++ output ++ .print (text ++ "\n"),session)
  | .error error session =>
    let (output,session) := terminal.drain session
    (started ++ output ++ terminal.log (.inputFailed error.summary) ++ terminal.report error,
      session)

def lexemeLine (lexeme : Lexeme) : String :=
  Text.padLeft 4 (toString lexeme.span.start) ++ ".." ++ Text.padRight 4 (toString lexeme.span.stop)
    ++ " " ++ lexeme.token.describe ++ "\n"

def lexLine (line : String) : Output :=
  let (lexemes,fault) := (Cursor.ofText line).scan
  let ending := match fault with
    | none => ""
    | some error => "[at " ++ toString error.span.start ++ "] Lexical Error: " ++ error.message
        ++ "\n" ++ String.intercalate "\n" error.notes ++ "\n"
  .print (String.join (lexemes.map lexemeLine) ++ ending)

def parseLine (line : String) : Output :=
  match parseText line with
  | .ok program => .print (program.source ++ "\n")
  | .error error =>
    let notes := error.fault.notes
    .print ("[at " ++ error.span.text ++ "] Parse error: " ++ error.fault.message ++ ".\n"
      ++ if notes.isEmpty then "" else "\t" ++ String.intercalate "\n\t" notes ++ "\n")

def trimLine (line : String) : String :=
  String.ofList (line.toList.reverse.dropWhile fun c => c = '\n' || c = '\r').reverse

def respond (loop : Loop) (terminal : Terminal) (line : String) (session : Session) :
    Option (Output × Session) :=
  let line := trimLine line
  if line = ".exit" then none
  else if line.isEmpty then some (.print "",session)
  else
    match loop with
    | evaluate => some (evaluateLine terminal line session)
    | lex => some (lexLine line,session)
    | parse => some (parseLine line,session)

def splitInput : List UInt8 → List (List UInt8)
  | [] => []
  | byte :: rest =>
    if byte = 10 then [byte] :: splitInput rest
    else
      match splitInput rest with
      | [] => [[byte]]
      | line :: lines => (byte :: line) :: lines

/-- A whole conversation, with its exit code. A line that is not UTF-8 ends it as an error. -/
def converse (loop : Loop) (terminal : Terminal) :
    List (List UInt8) → Session → Output × UInt32
  | [],_ => (.print loop.prompt,0)
  | line :: rest,session =>
    match String.fromUTF8? line.toByteArray with
    | none => (.print loop.prompt ++ terminal.report (.io .invalidData),1)
    | some line =>
      match loop.respond terminal line session with
      | none => (.print loop.prompt,0)
      | some (output,session) =>
        let (remaining,code) := converse loop terminal rest session
        (.print loop.prompt ++ output ++ remaining,code)

end Loop
end Scriptlet
