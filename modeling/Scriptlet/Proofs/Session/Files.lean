import Scriptlet.Proofs.Eval.Unlogged
import Scriptlet.Proofs.Session.Reading
import Scriptlet.Proofs.Store.History

/-! Files. Running a file is evaluating the text that its bytes encode; bytes that encode no text
are never accepted. -/
namespace Scriptlet
open Text

def Error.withPath (path : String) : Error → Error
  | .parse _ source error => .parse path source error
  | .runtime _ source error => .runtime path source error
  | .io fault => .io fault

namespace Session

variable {session : Session} {disk : Disk} {path text : String} {bytes : List UInt8}

def afterParsing (session : Session) (path : String) (program : Program) : Session :=
  {session with
    path := path
    world := {session.world with
      events := .parsed path program.statements.length :: session.world.events}}

section
variable [Decoder]

theorem parseFile_file (readable : disk path = .ok (.file bytes)) :
    parseFile disk path session =
      match parseBytes path bytes with
      | .error error => .error error {session with path := path}
      | .ok (program,text) => .ok (program,text) (session.afterParsing path program) := by
  unfold parseFile
  rw [readable]
  change (match parseBytes path bytes with
    | .error error => throw error
    | .ok (program,text) => do
      modify fun session => {session with world := {session.world with
        events := .parsed path program.statements.length :: session.world.events}}
      return (program,text) : SessionM (Program × String)) {session with path := path} = _
  cases parseBytes path bytes <;> rfl

theorem runFile_parsed {program : Program} {after : Session}
    (parsed : parseFile disk path session = .ok (program,text) after) :
    runFile disk path session = evalProgram program text after := by
  change EStateM.bind (parseFile disk path) _ session = _
  rw [EStateM.bind,parsed]

theorem runFile_failed {error : Error} {after : Session}
    (failed : parseFile disk path session = .error error after) :
    runFile disk path session = .error error after := by
  change EStateM.bind (parseFile disk path) _ session = _
  rw [EStateM.bind,failed]

end

/-- Sessions in the same state, apart from the log and the path that reports name. -/
structure Alike (first second : Session) : Prop where
  world : SameButLog first.world second.world
  scope : second.scope = first.scope
  host : second.host = first.host

private theorem afterParsing_alike (session : Session) (path : String) (program : Program) :
    session.Alike (session.afterParsing path program) := ⟨⟨rfl,rfl,rfl⟩,rfl,rfl⟩

/-- A program does the same in sessions that are alike, except for the path in its errors. -/
theorem Alike.evalProgram {first second : Session} (alike : first.Alike second)
    (ignores : first.host.IgnoresLog) (program : Program) (source : String) :
    answerOf (Session.evalProgram program source second) =
        (answerOf (Session.evalProgram program source first)).mapError
          (Error.withPath second.path) ∧
      Alike (stateAfter (Session.evalProgram program source first))
        (stateAfter (Session.evalProgram program source second)) := by
  have owned : Accord.unlogged.owned first.scope := trivial
  have matched := Accord.evaluate_governed Accord.unlogged_lawful ignores owned program alike.world
  unfold Session.evalProgram
  rw [alike.scope,alike.host]
  generalize first.host.evaluate first.scope program first.world = outcome at matched ⊢
  generalize first.host.evaluate first.scope program second.world = outcome' at matched ⊢
  cases matched with
  | ok held later => exact ⟨rfl,later,rfl,rfl⟩
  | error later => exact ⟨rfl,later,rfl,rfl⟩

end Session

/-- A file that holds a text is the text: parsing it gives the program of the text and the text, or
the error of the text; running it does what evaluating the text does, with its path in the errors.
A file that holds no text is an error of reading, and the session keeps its state. -/
theorem files_are_texts [Decoder] (documented : Decoder.Documented) (session : Session)
    (ignores : session.host.IgnoresLog) {disk : Disk} {path : String} {bytes : List UInt8}
    (readable : disk path = .ok (.file bytes)) :
    (∀ text : String, bytes.toByteArray = text.toByteArray →
      answerOf (Session.parseFile disk path session) =
        (match parseText text with
        | .ok program => .ok (program,text)
        | .error error => .error (.parse path text error)) ∧
      answerOf (Session.runFile disk path session) =
        (answerOf (Session.eval text session)).mapError (Error.withPath path) ∧
      (stateAfter (Session.eval text session)).Alike
        (stateAfter (Session.runFile disk path session))) ∧
    (¬bytes.toByteArray.IsValidUTF8 → ∃ fault, (fault = .invalidData ∨ fault = .unexpectedEof) ∧
      answerOf (Session.parseFile disk path session) = .error (.io fault) ∧
      answerOf (Session.runFile disk path session) = .error (.io fault) ∧
      (stateAfter (Session.parseFile disk path session)).world = session.world ∧
      (stateAfter (Session.runFile disk path session)).world = session.world) := by
  have opened : Session.parseFile disk path session = _ := Session.parseFile_file readable
  refine ⟨?_,?_⟩
  · intro text encoded
    rw [Session.parseBytes_text documented path encoded] at opened
    cases parsed : parseText text with
    | ok program =>
      rw [parsed] at opened
      have evaluated : Session.eval text session = Session.evalProgram program text session := by
        unfold Session.eval
        rw [parsed]
      rw [Session.runFile_parsed opened,evaluated,opened]
      have alike := session.afterParsing_alike path program
      exact ⟨rfl,alike.evalProgram ignores program text⟩
    | error error =>
      rw [parsed] at opened
      have evaluated : Session.eval text session =
          .error (.parse session.path text error) session := by
        unfold Session.eval
        rw [parsed]
        rfl
      rw [Session.runFile_failed opened,evaluated,opened]
      exact ⟨rfl,rfl,⟨rfl,rfl,rfl⟩,rfl,rfl⟩
  · intro invalid
    obtain ⟨fault,kind,failed⟩ := Session.parseBytes_invalid documented path invalid
    rw [failed] at opened
    rw [Session.runFile_failed opened,opened]
    exact ⟨fault,kind,rfl,rfl,rfl,rfl⟩

/-- A file that reads `true`, and one with a stray byte behind a letter. -/
theorem files_are_texts_true :
    let session := Session.start fun _ => .ok 0
    let disk : Disk := fun path =>
      .ok (.file (if path = "true" then [0x74,0x72,0x75,0x65] else [0x74,0xff]))
    session.host.IgnoresLog ∧
      answerOf (Session.runFile disk "true" session) =
        (answerOf (Session.eval "true" session)).mapError (Error.withPath "true") ∧
      ∃ fault, answerOf (Session.runFile disk "stray" session) = .error (.io fault) := by
  intro session disk
  have ignores : session.host.IgnoresLog := Host.standard_ignoresLog
  have encoded : [0x74,0x72,0x75,0x65].toByteArray = "true".toByteArray := by decide +kernel
  have invalid : ¬[0x74,0xff].toByteArray.IsValidUTF8 := by decide +kernel
  have readable : disk "true" = .ok (.file [0x74,0x72,0x75,0x65]) := by simp [disk]
  have stray : disk "stray" = .ok (.file [0x74,0xff]) := by simp [disk]
  obtain ⟨texts,_⟩ := files_are_texts utf8_documented session ignores readable
  obtain ⟨_,others⟩ := files_are_texts utf8_documented session ignores stray
  obtain ⟨fault,_,_,failed,_⟩ := others invalid
  exact ⟨ignores,(texts "true" encoded).2.1,fault,failed⟩

end Scriptlet
