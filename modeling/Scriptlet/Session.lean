import Scriptlet.Disk
import Scriptlet.Host
import Scriptlet.Lexer.Gatherer
import Scriptlet.Parser
import Scriptlet.Parser.Window

/-! A session: one global scope over many inputs. What an input declared before it failed
stays declared. -/
namespace Scriptlet

structure Session where
  world : World
  scope : ScopeId
  path : String
  host : Host

abbrev SessionM := EStateM Error Session

namespace Session
open Text

def start (clock : Nat → Reading) : Session :=
  let (scope,store) := Store.empty.addGlobal
  ⟨⟨store,"",[],clock⟩,scope,"<repl>",Host.standard⟩

def evalProgram (program : Program) (source : String) : SessionM Value := fun session =>
  match session.host.evaluate session.scope program session.world with
  | .ok value world => .ok value {session with world := world}
  | .error error world => .error (.runtime session.path source error) {session with world := world}

def eval (source : String) : SessionM Value := do
  match parseText source with
  | .error error => throw (.parse (← get).path source error)
  | .ok program => evalProgram program source

def ioFault : DecodeFault → IoFault
  | .malformed => .invalidData
  | .truncated => .unexpectedEof

section
variable [Decoder]

def readProgram (bytes : List UInt8) : Except ParseError Program × Gatherer :=
  match Parser.whole (Window.ofSource (Scanner.ofInput (Gatherer.ofBytes bytes))) with
  | .ok program window => (.ok program,window.source.input)
  | .error error window => (.error error,window.source.input)

/-- The program of a file and its text, which is gathered while the parser reads the file. A
fault that was met is reported instead of any result. After a parse error the rest of the file is
read for the report. -/
def parseBytes (path : String) (bytes : List UInt8) : Except Error (Program × String) :=
  let (parsed,gathered) := readProgram bytes
  match gathered.fault,parsed with
  | some fault,_ => .error (.io (ioFault fault))
  | none,.ok program => .ok (program,gathered.text)
  | none,.error error =>
    match String.fromUTF8? gathered.bytes.toByteArray with
    | some rest => .error (.parse path (gathered.text ++ rest) error)
    | none => .error (.io .invalidData)

/-- Reports name the file from the moment it is open. -/
def parseFile (disk : Disk) (path : String) : SessionM (Program × String) := do
  match disk path with
  | .error fault => throw (.io fault)
  | .ok entry =>
    modify fun session => {session with path := path}
    match entry with
    | .directory => throw (.io .isADirectory)
    | .file bytes =>
      match parseBytes path bytes with
      | .error error => throw error
      | .ok (program,text) =>
        modify fun session => {session with world := {session.world with
          events := .parsed path program.statements.length :: session.world.events}}
        return (program,text)

def runFile (disk : Disk) (path : String) : SessionM Value := do
  let (program,text) ← parseFile disk path
  evalProgram program text

end

def outline (session : Session) : Outline :=
  .record "Session" [.labelled "env" (session.world.store.scopeOutline session.scope),
    .labelled "path" (.atom (quoted session.path))]

end Session
end Scriptlet
