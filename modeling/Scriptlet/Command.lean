import Scriptlet.Command.Help
import Scriptlet.Text.Utf8
import Scriptlet.Tree.Dump

/-! What a command prints. -/
namespace Scriptlet.Command

structure Surroundings where
  logFilter : Option String
  forceColour : Option String

def terminal (command : Command) (surroundings : Surroundings) :
    Terminal × List (String × DirectiveFault) :=
  let colour := match surroundings.forceColour with
    | some text => !text.isEmpty
    | none => false
  match surroundings.logFilter with
  | some text =>
    let (filter,ignored) := Filter.ofText text
    (⟨filter,colour⟩,ignored)
  | none => (⟨.only (if command.verbose then .debug else .warn),colour⟩,[])

def warnings (ignored : List (String × DirectiveFault)) : Output :=
  .complain (ignored.map fun part =>
    .text ("ignoring `" ++ part.1 ++ "`: " ++ part.2.message ++ "\n"))

open Report in
def status (terminal : Terminal) (style : Style) (word : String) (rest : List Chunk) : Output :=
  let heading : Markup := painted style (Text.padLeft 11 word) ++ plainly " "
  .complain ([.text (heading.render terminal.colour)] ++ rest ++ [.text "\n"])

def runFile (terminal : Terminal) (disk : Disk) (path : String) (printTree : Bool)
    (session : Session) : Output × UInt32 :=
  let started := status terminal .success "Running" [.text path]
    ++ terminal.log (.run path printTree)
  let failed (error : Error) : Output :=
    terminal.log (.runFailed error.summary) ++ terminal.report error
      ++ status terminal .header "Failed" [.text "after ",.elapsed]
  match Session.parseFile disk path session with
  | .error error session =>
    (started ++ (terminal.drain session).1 ++ failed error,1)
  | .ok (program,source) session =>
    let tree := Output.print (if printTree then program.dump ++ "\n" else "")
    match Session.evalProgram program source session with
    | .error error session =>
      (started ++ tree ++ (terminal.drain session).1 ++ failed error,1)
    | .ok value session =>
      (started ++ tree ++ (terminal.drain session).1
        ++ .print (session.world.store.text value ++ "\n")
        ++ status terminal .success "Finished" [.text "in ",.elapsed],0)

def versionText : String := "ember 0.1.0\n"

/-- The whole output of a command on an input, with the exit code. -/
def execute (command : Except Refusal Command) (surroundings : Surroundings) (disk : Disk)
    (input : List UInt8) (clock : Nat → Reading) : Output × UInt32 :=
  match command with
  | .error refusal => (.complain [.text refusal.message],2)
  | .ok command =>
    let (terminal,ignored) := command.terminal surroundings
    let session := Session.start clock
    match command.request with
    | .version => (.print versionText,0)
    | .help topic => (.print topic.help,0)
    | .run path printTree =>
      let (output,code) := runFile terminal disk path printTree session
      (warnings ignored ++ output,code)
    | .loop loop =>
      let (output,code) := loop.converse terminal (Loop.splitInput input) session
      (warnings ignored ++ output,code)

end Scriptlet.Command
