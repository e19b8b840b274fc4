import Scriptlet.Clock
import Scriptlet.Command
import Std.Time.DateTime

/-! The program: arguments, files and the terminal around `Command`. -/
namespace Scriptlet.Shell

def nowMicros : IO Nat := do
  let now ← Std.Time.Timestamp.now
  return now.toNanosecondsSinceUnixEpoch.val.toNat / 1000

/-- A clock that stands still while an input is evaluated. -/
def clockAt (micros : Nat) (_ : Nat) : Reading := .ok (micros / 1000).toFloat

/-- A path with no directory where it needs one fails by its name, reading a directory does not;
an argument is invalid by code 22 for a zero byte, by another for its length. -/
def faultOf : IO.Error → IoFault
  | .noFileOrDirectory .. => .notFound
  | .permissionDenied .. => .permissionDenied
  | .alreadyExists .. => .alreadyExists
  | .inappropriateType (some _) .. => .notADirectory
  | .inappropriateType none .. => .isADirectory
  | .invalidArgument _ code _ => if code = 22 then .invalidInput else .invalidFilename
  | .interrupted .. => .interrupted
  | .unexpectedEof => .unexpectedEof
  | _ => .other

def diskFor (path : String) : IO Disk := do
  try
    let bytes ← IO.FS.readBinFile path
    return fun _ => .ok (.file bytes.toList)
  catch error =>
    let fault := faultOf error
    return fun _ => if fault = .isADirectory then .ok .directory else .error fault

def write (start : Nat) (output : Output) : IO Unit := do
  let stdout ← IO.getStdout
  let stderr ← IO.getStderr
  stdout.putStr output.standard
  stdout.flush
  let now ← nowMicros
  let elapsed := Clock.seconds ((now - start) / 1000)
  for chunk in output.errors do
    stderr.putStr (chunk.write elapsed (Clock.stamp now))
  stderr.flush

partial def readLine (input : IO.FS.Stream) (read : Array UInt8) : IO (List UInt8) := do
  let bytes ← input.read 1
  match bytes.toList with
  | [] => return read.toList
  | byte :: _ =>
    if byte = 10 then return (read.push byte).toList
    else readLine input (read.push byte)

partial def talk (start : Nat) (terminal : Terminal) (loop : Loop) (session : Session) :
    IO UInt32 := do
  write start (.print loop.prompt)
  let line ← readLine (← IO.getStdin) #[]
  if line.isEmpty then return 0
  match String.fromUTF8? line.toByteArray with
  | none =>
    write start (terminal.report (.io .invalidData))
    return 1
  | some line =>
    let now ← nowMicros
    let session := {session with world := {session.world with clock := clockAt now}}
    match loop.respond terminal line session with
    | none => return 0
    | some (output,session) =>
      write start output
      talk start terminal loop session

def perform (start : Nat) (command : Except Refusal Command) (surroundings : Command.Surroundings) :
    IO UInt32 := do
  let clock := clockAt start
  match command with
  | .ok ⟨verbose,.loop loop⟩ =>
    let (terminal,ignored) := Command.terminal ⟨verbose,.loop loop⟩ surroundings
    write start (Command.warnings ignored)
    talk start terminal loop (Session.start clock)
  | _ =>
    let disk ← match command with
      | .ok ⟨_,.run path _⟩ => diskFor path
      | _ => pure (Disk.ofEntries [])
    let (output,code) := Command.execute command surroundings disk [] clock
    write start output
    return code

end Scriptlet.Shell

def main (arguments : List String) : IO UInt32 := do
  let start ← Scriptlet.Shell.nowMicros
  let surroundings : Scriptlet.Command.Surroundings :=
    ⟨← IO.getEnv "RUST_LOG",← IO.getEnv "FORCE_COLOR"⟩
  Scriptlet.Shell.perform start (Scriptlet.Command.ofArguments arguments) surroundings
