import Scriptlet.Proofs.Lexer.Lossless
import Scriptlet.Proofs.Parser.Nested
import Scriptlet.Proofs.Session.Files
import Scriptlet.Proofs.Session.FirstOrder

/-! Errors point into their own source. The nodes of a parsed program stand on whole characters of
its text, a parse error is about a token or a character of it, and an error of an evaluation is
about a node of the program, since a session has no functions with bodies from another source. -/
namespace Scriptlet
open Text

/-- Between two characters of the text, or at one of its ends. -/
def Boundary (source : String) (place : Nat) : Prop := (⟨place⟩ : String.Pos.Raw).IsValid source

theorem Boundary.le {source : String} {place : Nat} (boundary : Boundary source place) :
    place ≤ source.utf8ByteSize :=
  boundary.le_rawEndPos

private theorem boundary_append (before after : String) :
    Boundary (before ++ after) before.utf8ByteSize :=
  String.Pos.Raw.isValid_iff_exists_append.mpr ⟨before,after,rfl,rfl⟩

structure Span.Inside (source : String) (span : Span) : Prop where
  ordered : span.start ≤ span.stop
  within : span.stop.toNat ≤ source.utf8ByteSize
  start : Boundary source span.start.toNat
  stop : Boundary source span.stop.toNat

theorem Cursor.Occupies.inside {source text : String} {span : Span}
    (stands : Occupies source span text) : span.Inside source := by
  obtain ⟨before,after,rfl,start,stop⟩ := stands
  have behind := boundary_append (before ++ text) after
  rw [← stop] at behind
  refine ⟨?_,behind.le,?_,behind⟩
  · rw [UInt32.le_iff_toNat_le,start,stop,String.utf8ByteSize_append]
    exact Nat.le_add_right _ _
  · rw [start,String.append_assoc]
    exact boundary_append before (text ++ after)

/-! The tokens of a text. -/

namespace Cursor

private theorem gathered_tokens {final lexeme : Lexeme} {pieces : List Piece}
    (member : lexeme ∈ (gathered final pieces).1) : lexeme = final ∨ .ok lexeme ∈ pieces := by
  induction pieces with
  | nil => simpa [gathered] using member
  | cons piece pieces ih =>
    cases piece with
    | error error => simp [gathered] at member
    | ok first =>
      rcases List.mem_cons.mp member with rfl | later
      · exact .inr (by simp)
      · exact (ih later).imp_right (List.mem_cons_of_mem _)

private theorem gathered_error {final : Lexeme} {pieces : List Piece} {error : LexError}
    (found : (gathered final pieces).2 = some error) : .error error ∈ pieces := by
  induction pieces with
  | nil => simp [gathered] at found
  | cons piece pieces ih =>
    cases piece with
    | error first =>
      obtain rfl := Option.some.inj found
      simp
    | ok first => exact List.mem_cons_of_mem _ (ih found)

end Cursor
open Cursor

section
variable {source : String} (fits : source.utf8ByteSize < UInt32.size)
include fits

private theorem Stream.ofText_lexeme {lexeme : Lexeme}
    (member : lexeme ∈ (Stream.ofText source).tokens) : lexeme.span.Inside source ∧
      (lexeme.token = .eof →
        lexeme.span = ⟨.ofNat source.utf8ByteSize,.ofNat source.utf8ByteSize⟩) := by
  obtain ⟨pieces,laid,scanned⟩ := exists_pieces source
  rw [Stream.ofText_tokens,scanned] at member
  rcases gathered_tokens member with rfl | held
  · have final := boundary_append source ""
    rw [String.append_empty,← UInt32.toNat_ofNat_of_lt' fits] at final
    exact ⟨⟨le_rfl,final.le,final,final⟩,fun _ => rfl⟩
  · exact ⟨(laid.occupied fits _ held).inside,fun eof => (laid.ne_eof held eof).elim⟩

private theorem Stream.ofText_fault {error : LexError}
    (failed : (Stream.ofText source).ending = .failed error) : error.span.Inside source := by
  obtain ⟨pieces,laid,scanned⟩ := exists_pieces source
  unfold Stream.ofText Stream.ofCursor at failed
  split at failed
  · next tokens reason found =>
    obtain rfl : reason = error := Ending.failed.inj failed
    have fault : (gathered (endToken (.ofNat source.utf8ByteSize)) pieces).2 = some reason := by
      rw [← scanned,found]
    exact (laid.occupied fits _ (gathered_error fault)).inside
  · cases failed

omit fits in
private theorem Stream.ofText_open (source : String) : (Stream.ofText source).ending ≠ .closed := by
  unfold Stream.ofText Stream.ofCursor
  split <;> simp

/-! Programs and parse errors of a text. -/

private theorem parseText_spans {program : Program} (parsed : parseText source = .ok program) :
    ∀ span ∈ program.spans, span.start < span.stop ∧ span.Inside source := by
  obtain ⟨inner,read,filled⟩ := parseText_fills fits parsed
  have held : ∀ lexeme ∈ inner ++ [endToken (.ofNat source.utf8ByteSize)],
      lexeme.span.Inside source := by
    intro lexeme member
    have stream := Stream.ofText_of_tokenize read
    exact (Stream.ofText_lexeme fits (by rwa [stream])).1
  intro span member
  have fills := filled span member
  obtain ⟨first,member,_,start⟩ := fills.start
  obtain ⟨last,member',_,stop⟩ := fills.stop
  have boundary := (held last member').stop
  rw [stop] at boundary
  exact ⟨fills.some,fills.some.le,boundary.le,start ▸ (held first member).start,boundary⟩

omit fits

private theorem Stream.ending_of_fault {stream : Stream} {error : LexError}
    (found : stream.fault = some error) : stream.ending = .failed error := by
  unfold fault at found
  split at found
  · cases found
  · obtain rfl := Option.some.inj found
    assumption
  · cases found

/-- A stream of characters is rejected for one that starts no token, or for a token. -/
theorem Stream.parse_rejects {stream : Stream} {reason : ParseError} (steady : stream.Steady)
    (endings : stream.ending ≠ .closed) (rejected : stream.parse = .error reason) :
    (∃ error, stream.ending = .failed error ∧ reason = ⟨.lexical error,error.span⟩) ∨
    ∃ before offending behind, stream.tokens = before ++ offending :: behind ∧
      Parser.Blames reason before offending := by
  have same := Parser.run_program_eq steady Parser.pending_le_bound
  cases ran : Parser.program stream.bound stream with
  | ok parsed rest =>
    obtain ⟨_,⟨_,_,_,_,ending,_⟩,_⟩ := Parser.program_yields steady ran
    rw [parse_of_ok (same.trans ran)] at rejected
    split at rejected
    · next error fault =>
      obtain rfl := Except.error.inj rejected
      exact .inl ⟨error,ending ▸ Stream.ending_of_fault fault,rfl⟩
    · cases rejected
  | error failure rest =>
    have ending := Parser.program_error_ending ran
    rw [parse_of_error (same.trans ran)] at rejected
    split at rejected
    · next error fault =>
      obtain rfl := Except.error.inj rejected
      exact .inl ⟨error,ending ▸ Stream.ending_of_fault fault,rfl⟩
    · next fault =>
      obtain rfl := Except.error.inj rejected
      rcases Parser.statements_break steady Parser.pending_le_bound
        (Parser.program_error.mp ran) with
        ⟨none,_,steady'⟩ | ⟨before,offending,behind,whole,blamed,_⟩
      · -- The tokens were used up in front of a fault, which would have been reported.
        cases failed : rest.ending with
        | closed => exact (endings (ending.symm.trans failed)).elim
        | endless =>
          obtain ⟨last,some,_⟩ := steady' failed
          simp [none] at some
        | failed error =>
          rw [fault_of_few (by simp [none]) failed] at fault
          cases fault
      · exact .inr ⟨before,offending,behind,whole,blamed⟩

include fits

private theorem parseText_error_span {reason : ParseError}
    (rejected : parseText source = .error reason) :
    reason.span.Inside source ∧ (reason.fault = .unexpectedEof →
      reason.span = ⟨.ofNat source.utf8ByteSize,.ofNat source.utf8ByteSize⟩) := by
  rcases Stream.parse_rejects (Stream.ofText_steady source)
    (Stream.ofText_open source) rejected with
    ⟨error,failed,rfl⟩ | ⟨before,offending,behind,whole,blamed⟩
  · exact ⟨Stream.ofText_fault fits failed,by simp⟩
  · have here := @Stream.ofText_lexeme source fits offending (by simp [whole])
    cases blamed with
    | ending => exact ⟨here.1,fun _ => here.2 rfl⟩
    | @constant before name span place =>
      have named := @Stream.ofText_lexeme source fits ⟨.ident name,span⟩ (by simp [whole])
      exact ⟨named.1,by simp⟩
    | ident | token | number => exact ⟨here.1,by simp⟩

end

/-! Errors of sessions and their reports. -/

theorem Span.Inside.clamp {source : String} {span : Span} (inside : span.Inside source)
    (fits : source.utf8ByteSize < UInt32.size) :
    Report.clamp source span = span := by
  have stop : span.stop ≤ .ofNat source.utf8ByteSize := by
    rw [UInt32.le_iff_toNat_le,UInt32.toNat_ofNat_of_lt' fits]
    exact inside.within
  rw [Report.clamp,min_eq_left (inside.ordered.trans stop),min_eq_left stop]

namespace Error

/-- The report shows this place of this source, and clamping leaves the place as it is. -/
def Shows (error : Error) (source : String) (span : Span) : Prop :=
  ∃ location, error.diagnostic.location = some location ∧ location.source = source ∧
    location.label.span = span ∧ Report.clamp source span = span

/-- The error points into the source it carries, and its report shows that very place. -/
def Points : Error → Prop
  | .parse path source reason => reason.span.Inside source ∧
      (parse path source reason).Shows source reason.span
  | .runtime path source reason => reason.span.start < reason.span.stop ∧
      reason.span.Inside source ∧ (runtime path source reason).Shows source reason.span
  | .io _ => True

private theorem parse_points {path source : String} {reason : ParseError}
    (fits : source.utf8ByteSize < UInt32.size)
    (rejected : parseText source = .error reason) : (parse path source reason).Points := by
  obtain ⟨inside,final⟩ := parseText_error_span fits rejected
  have shown : shownSpan source reason = reason.span := by
    unfold shownSpan
    split
    · next ended => exact (final ended).symm
    · rfl
  exact ⟨inside,_,rfl,rfl,shown,inside.clamp fits⟩

end Error

private theorem Host.standard_makesNoFunctions : Host.standard.MakesNoFunctions :=
  fun _ => Host.standard_honours _

namespace Session

variable {session after : Session} {error : Error}

private theorem FirstOrder.evalProgram_points (first : session.FirstOrder) {program : Program}
    {source : String} (fits : source.utf8ByteSize < UInt32.size)
    (parsed : parseText source = .ok program)
    (failed : Session.evalProgram program source session = .error error after) : error.Points := by
  unfold Session.evalProgram at failed
  split at failed
  · cases failed
  · next reason world ran =>
    obtain ⟨rfl,_⟩ := EStateM.Result.error.inj failed
    have makesNone : session.host.MakesNoFunctions := by
      rw [first.host]
      exact Host.standard_makesNoFunctions
    -- There is no function whose body the error could be in.
    rcases Host.evaluate_error_span makesNone ran with here | ⟨function,stored,_⟩
    · obtain ⟨some,inside⟩ := parseText_spans fits parsed _ here
      exact ⟨some,inside,_,rfl,rfl,rfl,inside.clamp fits⟩
    · exact (first.store.basic _ stored).elim

private theorem FirstOrder.eval_points (first : session.FirstOrder) {source : String}
    (fits : source.utf8ByteSize < UInt32.size)
    (failed : Session.eval source session = .error error after) : error.Points := by
  unfold Session.eval at failed
  cases parsed : parseText source with
  | error reason =>
    rw [parsed] at failed
    obtain ⟨rfl,_⟩ := EStateM.Result.error.inj failed
    exact Error.parse_points fits parsed
  | ok program =>
    rw [parsed] at failed
    exact first.evalProgram_points fits parsed failed

variable [Decoder] (documented : Decoder.Documented)
include documented

private theorem parseBytes_cases (path : String) (bytes : List UInt8) :
    (∃ fault, parseBytes path bytes = .error (.io fault)) ∨
    ∃ text : String, text.utf8ByteSize = bytes.length ∧
      parseBytes path bytes = match parseText text with
      | .ok program => .ok (program,text)
      | .error reason => .error (.parse path text reason) := by
  by_cases valid : bytes.toByteArray.IsValidUTF8
  · exact .inr ⟨String.ofByteArray bytes.toByteArray valid,List.size_toByteArray,
      parseBytes_text documented path rfl⟩
  · obtain ⟨fault,_,failed⟩ := parseBytes_invalid documented path valid
    exact .inl ⟨fault,failed⟩

private theorem FirstOrder.runFile_points (first : session.FirstOrder) {disk : Disk} {path : String}
    (fits : ∀ bytes, disk path = .ok (.file bytes) → bytes.length < UInt32.size)
    (failed : Session.runFile disk path session = .error error after) : error.Points := by
  have parsed := first.parseFile disk path
  cases found : disk path with
  | error fault =>
    have opened : Session.parseFile disk path session = .error (.io fault) session := by
      unfold Session.parseFile
      rw [found]
      rfl
    rw [runFile_failed opened] at failed
    obtain ⟨rfl,_⟩ := EStateM.Result.error.inj failed
    trivial
  | ok entry =>
    cases entry with
    | directory =>
      have opened : Session.parseFile disk path session =
          .error (.io .isADirectory) {session with path := path} := by
        unfold Session.parseFile
        rw [found]
        rfl
      rw [runFile_failed opened] at failed
      obtain ⟨rfl,_⟩ := EStateM.Result.error.inj failed
      trivial
    | file bytes =>
      have opened : Session.parseFile disk path session = _ := parseFile_file found
      rcases parseBytes_cases documented path bytes with ⟨fault,read⟩ | ⟨text,size,read⟩
      · rw [read] at opened
        rw [runFile_failed opened] at failed
        obtain ⟨rfl,_⟩ := EStateM.Result.error.inj failed
        trivial
      · rw [read] at opened
        have short : text.utf8ByteSize < UInt32.size := size ▸ fits bytes found
        cases answer : parseText text with
        | error reason =>
          rw [answer] at opened
          rw [runFile_failed opened] at failed
          obtain ⟨rfl,_⟩ := EStateM.Result.error.inj failed
          exact Error.parse_points short answer
        | ok program =>
          rw [answer] at opened
          rw [opened] at parsed
          rw [runFile_parsed opened] at failed
          exact parsed.evalProgram_points short answer failed

end Session

/-- An error of an evaluation points to a node of the program or of a function in the store, if
custom routines make no functions. So every error of an input to a session points into the source
it carries, between two characters, and its report shows that place as it is. -/
theorem errors_point_inside [Decoder] (documented : Decoder.Documented) :
    (∀ host : Host, host.MakesNoFunctions → ∀ scope program world error after,
      host.evaluate scope program world = .error error after → error.span ∈ program.spans ∨
        ∃ function, world.store.Stored (.closure function) ∧ error.span ∈ function.spans) ∧
    ∀ session : Session, session.Reachable →
      (∀ source : String, source.utf8ByteSize < UInt32.size → ∀ error after,
        Session.eval source session = .error error after → error.Points) ∧
      ∀ (disk : Disk) (path : String),
        (∀ bytes, disk path = .ok (.file bytes) → bytes.length < UInt32.size) → ∀ error after,
        Session.runFile disk path session = .error error after → error.Points := by
  refine ⟨?_,?_⟩
  · intro host makesNone scope program world error after failed
    exact Host.evaluate_error_span makesNone failed
  · intro session reached
    have first := reached.firstOrder
    exact ⟨fun source fits error after => first.eval_points fits,
      fun disk path fits error after => first.runFile_points documented fits⟩

/-- An error in the body of a function from elsewhere, and a text that ends too early. -/
theorem errors_point_inside_function :
    let clock : Nat → Reading := fun _ => .ok 0
    let function : Closure := ⟨2,"f",[],[.expression (.identifier ⟨"x",⟨40,41⟩⟩)],0⟩
    let world : World :=
      ⟨Store.empty.addGlobal.2.bind 0 "f" (.closure function) false,"",[],clock⟩
    let program : Program := ⟨[.expression (.call (.identifier ⟨"f",⟨0,1⟩⟩) [] ⟨0,3⟩)],⟨0,3⟩⟩
    let error : RuntimeError := ⟨.unresolvedVariable "x",⟨40,41⟩⟩
    let rejected : Error := .parse "<repl>" "(1" ⟨.unexpectedEof,⟨2,2⟩⟩
    Host.standard.MakesNoFunctions ∧
      (∃ after, Host.standard.evaluate 0 program world = .error error after) ∧
      (error.span ∈ program.spans ∨
        ∃ function, world.store.Stored (.closure function) ∧ error.span ∈ function.spans) ∧
      (Session.start clock).Reachable ∧
      Session.eval "(1" (Session.start clock) = .error rejected (Session.start clock) ∧
      rejected.Points := by
  intro clock function world program error rejected
  have failed : ∃ after, Host.standard.evaluate 0 program world = .error error after := ⟨_,rfl⟩
  have reached : (Session.start clock).Reachable := ⟨clock,.refl⟩
  have scanned : tokenize "(1" = .ok [⟨.leftParen,⟨0,1⟩⟩,⟨.number "1",⟨1,2⟩⟩,⟨.eof,⟨2,2⟩⟩] := by
    rw [tokenize,Cursor.ofText_eq]
    decide +kernel
  have parsed : parseText "(1" = .error ⟨.unexpectedEof,⟨2,2⟩⟩ := by
    rw [parse_of_tokenize scanned []]
    rfl
  have evaluated : Session.eval "(1" (Session.start clock) =
      .error rejected (Session.start clock) := by
    unfold Session.eval
    rw [parsed]
    rfl
  obtain ⟨after,ran⟩ := failed
  exact ⟨Host.standard_makesNoFunctions,⟨after,ran⟩,
    (errors_point_inside utf8_documented).1 _ Host.standard_makesNoFunctions 0 program world error
      after ran,
    reached,evaluated,
    ((errors_point_inside utf8_documented).2 _ reached).1 _ (by decide) _ _ evaluated⟩

/-- Where positions wrap around, a wrong token stops in front of its start. -/
theorem far_token_outside :
    let session := Session.start fun _ => .ok 0
    let source := blanks 4294967295 ++ ")"
    let reason : ParseError :=
      ⟨.unexpectedToken .rightParen ["an Identifier, Number or `(`"],⟨4294967295,0⟩⟩
    session.Reachable ∧
      Session.eval source session = .error (.parse session.path source reason) session ∧
      ¬ reason.span.start ≤ reason.span.stop ∧
        ¬ (Error.parse session.path source reason).Points := by
  intro session source reason
  have read : tokenize ")" = .ok [⟨.rightParen,⟨0,1⟩⟩,⟨.eof,⟨1,1⟩⟩] := by
    rw [tokenize,Cursor.ofText_eq]
    decide +kernel
  have parsed : parseText source = .error reason := by
    rw [parse_of_tokenize (tokenize_behind read 4294967295) []]
    rfl
  have reversed : ¬ reason.span.start ≤ reason.span.stop := by decide
  refine ⟨⟨_,.refl⟩,?_,reversed,?_⟩
  · unfold Session.eval
    rw [parsed]
    rfl
  · rintro ⟨inside,_⟩
    exact reversed inside.ordered

end Scriptlet
