import Scriptlet.Proofs.Parser.Nested
import Scriptlet.Proofs.Session.Files
import Scriptlet.Proofs.Session.FirstOrder

/-! Input in pieces. Two texts with a line break between them do in a session what they do one
after the other, as long as the second one does not go on with the last expression of the first. -/
namespace Scriptlet

section
open Cursor Scriptlet.Parser

variable {first second : String} {program program' : Program}
  (fits : (first ++ "\n" ++ second).utf8ByteSize < UInt32.size)
include fits

private theorem offset_fits : (UInt32.ofNat second.utf8ByteSize).toNat +
    (UInt32.ofNat (first.utf8ByteSize + 1)).toNat < UInt32.size := by
  rw [utf8ByteSize_join] at fits
  rwa [UInt32.toNat_ofNat_of_lt' (by omega),UInt32.toNat_ofNat_of_lt' (by omega)]

variable (parsed' : parseText second = .ok program')
include parsed'

private theorem moved_spans : ∀ span ∈ program'.spans,
    span.start ≤ .ofNat second.utf8ByteSize ∧ span.stop ≤ .ofNat second.utf8ByteSize := by
  rw [utf8ByteSize_join] at fits
  obtain ⟨_,_,fills⟩ := parseText_fills (by omega) parsed'
  intro span member
  have here := fills span member
  exact ⟨here.some.le.trans here.high,here.high⟩

private theorem moved_exactly : ∀ span ∈ program'.spans,
    (span.shift (.ofNat (first.utf8ByteSize + 1))).start.toNat =
      span.start.toNat + (first.utf8ByteSize + 1) ∧
    (span.shift (.ofNat (first.utf8ByteSize + 1))).stop.toNat =
      span.stop.toNat + (first.utf8ByteSize + 1) := by
  have room : _ < 2 ^ 32 := offset_fits fits
  intro span member
  obtain ⟨start,stop⟩ := moved_spans fits parsed' span member
  rw [UInt32.le_iff_toNat_le] at start stop
  rw [utf8ByteSize_join] at fits
  have offset : (UInt32.ofNat (first.utf8ByteSize + 1)).toNat = first.utf8ByteSize + 1 :=
    UInt32.toNat_ofNat_of_lt' (by omega)
  rw [offset] at room
  rw [Span.shift,UInt32.toNat_add,UInt32.toNat_add,offset,Nat.mod_eq_of_lt (by omega),
    Nat.mod_eq_of_lt (by omega)]
  exact ⟨rfl,rfl⟩

private theorem parseText_join (parsed : parseText first = .ok program)
    (apart : (tokensOf second).head? ≠ some .leftParen ∨ tokensOf first = [] ∨
      (tokensOf first).getLast? = some .semicolon) :
    parseText (first ++ "\n" ++ second) = .ok
      ⟨program.statements ++ program'.statements.map
        (Statement.mapSpans (Span.shift (.ofNat (first.utf8ByteSize + 1)))),
        ⟨0,.ofNat (first ++ "\n" ++ second).utf8ByteSize⟩⟩ := by
  have room := offset_fits fits
  have small : second.utf8ByteSize < UInt32.size := by
    rw [utf8ByteSize_join] at fits
    omega
  obtain ⟨rest,ran,clear⟩ := parse_ok.mp parsed
  obtain ⟨inner,read,_⟩ := run_ends ran clear
  obtain ⟨rest',ran',clear'⟩ := parse_ok.mp parsed'
  obtain ⟨others,read',_⟩ := run_ends ran' clear'
  rw [tokensOf_of_tokenize read,tokensOf_of_tokenize read',List.map_eq_nil_iff] at apart
  obtain ⟨trees,_⟩ := (parseText_ok read).mp parsed
  obtain ⟨trees',_⟩ := (parseText_ok read').mp parsed'
  -- Tokens and trees are pushed by the offset, which moves what is inside the text exactly.
  have joined := statements_join (.ofNat (first.utf8ByteSize + 1)) rfl rfl trees trees' apart
  have tokens : ∀ lexeme ∈ others ++ [endToken (.ofNat second.utf8ByteSize)],
      lexeme.push (.ofNat (first.utf8ByteSize + 1)) =
        lexeme.shift (.ofNat (first.utf8ByteSize + 1)) := by
    intro lexeme member
    obtain ⟨start,stop⟩ := lexeme_within small read' lexeme member
    rw [Lexeme.push,Span.push_eq_shift room start stop,Lexeme.shift]
  have statements : program'.statements.map
      (Statement.mapSpans (Span.push (.ofNat (first.utf8ByteSize + 1)))) =
      program'.statements.map
        (Statement.mapSpans (Span.shift (.ofNat (first.utf8ByteSize + 1)))) := by
    apply List.map_congr_left
    intro statement member
    apply Statement.mapSpans_congr
    intro span here
    have inside : span ∈ program'.spans := List.mem_flatMap_of_mem member here
    obtain ⟨start,stop⟩ := moved_spans fits parsed' span inside
    exact Span.push_eq_shift room start stop
  have whole := tokenize_join unicode_proper read read'
  rw [statements,List.map_congr_left tokens,tokens _ (by simp)] at joined
  rw [List.map_append,List.map_singleton,endToken_join,← List.append_assoc] at joined whole
  exact (parseText_ok whole).mpr ⟨joined,rfl⟩

end

private theorem Host.evaluate_append (host : Host) (scope : ScopeId) (program more : Program)
    (span : Span)
    (world : World) :
    host.evaluate scope ⟨program.statements ++ more.statements,span⟩ world =
      match host.evaluate scope program world with
      | .error reason after => .error reason after
      | .ok value middle =>
        if more.statements.isEmpty then .ok value middle else host.evaluate scope more middle := by
  have split : host.evaluate scope ⟨program.statements ++ more.statements,span⟩ =
      host.evaluate scope program >>= more.statements.foldlM fun _ content =>
        host.statement scope content := List.foldlM_append
  rw [split]
  change EStateM.bind _ _ world = _
  unfold EStateM.bind
  cases host.evaluate scope program world with
  | error reason after => rfl
  | ok value middle =>
    -- A first statement replaces the value, whatever it was.
    obtain ⟨statements,_⟩ := more
    cases statements <;> rfl

/-- An error of statements and the error they meet further on in a text: a place among them moves,
and one in the body of a function does not. -/
structure RuntimeError.Moved (functions : Closure → Prop) (program : Program) (offset : UInt32)
    (first second : RuntimeError) : Prop where
  fault : second.fault = first.fault
  place : (first.span ∈ program.spans ∧ second.span = first.span.shift offset) ∨
    (second.span = first.span ∧ ∃ function, functions function ∧ first.span ∈ function.spans)

namespace Host

/-- Custom routines do not read the log, and if all functions they come upon are among those
given, so are all that they store and return. -/
def Limited (host : Host) (functions : Closure → Prop) : Prop :=
  host.Honours (Accord.unlogged.storing (Value.Among functions))

variable {host : Host} {functions : Closure → Prop} (limited : host.Limited functions)
include limited

private theorem evaluate_moved (scope : ScopeId) (program : Program) (offset : UInt32) :
    let accord := Accord.unlogged.storing (Value.Among functions)
    accord.Follows (RuntimeError.Moved functions program offset) accord.value
      (host.evaluate scope program)
      (host.evaluate scope (program.mapSpans (Span.shift offset))) := by
  intro accord
  have lawful : accord.Lawful := Accord.unlogged_lawful.among functions
  have owned : accord.owned scope := trivial
  have byPlace : Accord.ByPlace (RuntimeError.Moved functions program offset) := by
    rintro span span' fault fault' ⟨_,place⟩
    exact ⟨rfl,place⟩
  have bodies : ∀ function, accord.value (.closure function) → ∀ span ∈ function.spans,
      ∀ fault : Fault, RuntimeError.Moved functions program offset ⟨fault,span⟩ ⟨fault,span⟩ :=
    fun function among span member _ => ⟨rfl,.inr ⟨rfl,function,among.2,member⟩⟩
  have told : ∀ span ∈ program.spans,
      accord.Tells (RuntimeError.Moved functions program offset) span (span.shift offset) := by
    intro span member
    refine ⟨fun _ => ⟨rfl,.inl ⟨member,rfl⟩⟩,?_⟩
    rintro first second ⟨same,only⟩
    exact .ok trivial ⟨{same with},only⟩
  exact Accord.evaluate_follows lawful limited owned byPlace bodies program told

private theorem evaluate_join (scope : ScopeId) (program program' : Program) (offset : UInt32)
    (span : Span)
    {world : World} (only : world.store.Only (Value.Among functions)) :
    let whole : Program :=
      ⟨program.statements ++ program'.statements.map (Statement.mapSpans (Span.shift offset)),span⟩
    match host.evaluate scope program world with
    | .error reason after => host.evaluate scope whole world = .error reason after
    | .ok value middle =>
      match host.evaluate scope program' middle with
      | .error reason after => ∃ reason' after',
        host.evaluate scope whole world = .error reason' after' ∧
          reason.Moved functions program' offset reason' ∧ SameButLog after after'
      | .ok value' after => ∃ after', host.evaluate scope whole world =
          .ok (if program'.statements.isEmpty then value else value') after' ∧
            SameButLog after after' := by
  intro whole
  have still (world : World) : SameButLog world world := ⟨rfl,rfl,rfl⟩
  have lawful := Accord.unlogged_lawful.among functions
  have owned : (Accord.unlogged.storing (Value.Among functions)).owned scope := trivial
  have parts :=
    host.evaluate_append scope program (program'.mapSpans (Span.shift offset)) span world
  -- The first program leaves no functions but those given, so the second can be moved.
  have kept := Accord.evaluate_governed lawful limited owned program ⟨still world,only⟩
  cases ran : host.evaluate scope program world with
  | error reason after =>
    rw [ran] at parts
    exact parts
  | ok value middle =>
    rw [ran] at kept parts
    have later : middle.store.Only (Value.Among functions) := by
      cases kept with
      | ok _ related => exact related.2
    have onward := evaluate_moved limited scope program' offset ⟨still middle,later⟩
    have empty : (program'.mapSpans (Span.shift offset)).statements.isEmpty =
        program'.statements.isEmpty := List.isEmpty_map
    dsimp only at parts ⊢
    rw [empty] at parts
    cases bare : program'.statements.isEmpty with
    | true =>
      have none : host.evaluate scope program' middle = .ok .null middle := by
        unfold evaluate
        rw [List.isEmpty_iff.mp bare]
        rfl
      rw [bare] at parts
      rw [none]
      exact ⟨middle,parts,still middle⟩
    | false =>
      rw [bare,if_neg (by simp)] at parts
      generalize host.evaluate scope program' middle = outcome at onward ⊢
      generalize host.evaluate scope (program'.mapSpans (Span.shift offset)) middle = outcome'
        at onward parts
      cases onward with
      | ok held related => exact ⟨_,parts,related.1⟩
      | error told related => exact ⟨_,_,parts,told,related.1⟩

end Host

namespace Session

variable {session : Session} {source : String} {program : Program}
  (parsed : parseText source = .ok program)
include parsed

private theorem eval_parsed : eval source session =
    match session.host.evaluate session.scope program session.world with
    | .ok value world => .ok value {session with world := world}
    | .error reason world =>
      .error (.runtime session.path source reason) {session with world := world} := by
  unfold eval
  rw [parsed]
  rfl

omit parsed in
private theorem FirstOrder.limited (firstOrder : session.FirstOrder) :
    session.host.Limited (fun _ => False) ∧
      session.world.store.Only (Value.Among fun _ => False) := by
  refine ⟨firstOrder.host ▸ Host.standard_honours _,?_⟩
  intro value stored
  have basic := firstOrder.store.basic value stored
  cases value with
  | closure function => exact basic
  | _ => trivial

end Session

/-- Two texts and a line break between them, where a parenthesis does not come behind an expression
that lacks its semicolon. The statements of the whole are those of both texts, the second ones
moved. In a session, whatever its state and its functions are, the whole does what the texts do one
after the other: it fails where they do, for the same reason, and gives the value of the last
statement. Texts whose positions do not wrap around are meant. -/
theorem pieces_make_whole {first second : String} {program program' : Program}
    (fits : (first ++ "\n" ++ second).utf8ByteSize < UInt32.size)
    (parsed : parseText first = .ok program) (parsed' : parseText second = .ok program')
    (apart : (tokensOf second).head? ≠ some .leftParen ∨ tokensOf first = [] ∨
      (tokensOf first).getLast? = some .semicolon) :
    let whole := first ++ "\n" ++ second
    let offset : UInt32 := .ofNat (first.utf8ByteSize + 1)
    parseText whole = .ok ⟨program.statements ++
        program'.statements.map (Statement.mapSpans (Span.shift offset)),
        ⟨0,.ofNat whole.utf8ByteSize⟩⟩ ∧
    (∀ span ∈ program'.spans,
      (span.shift offset).start.toNat = span.start.toNat + (first.utf8ByteSize + 1) ∧
      (span.shift offset).stop.toNat = span.stop.toNat + (first.utf8ByteSize + 1)) ∧
    ∀ (session : Session) (functions : Closure → Prop), session.host.Limited functions →
      session.world.store.Only (Value.Among functions) →
      match Session.eval first session with
      | .error error after => ∃ reason, error = .runtime session.path first reason ∧
          Session.eval whole session = .error (.runtime session.path whole reason) after
      | .ok value middle =>
        match Session.eval second middle with
        | .error error after => ∃ reason reason' after',
            error = .runtime session.path second reason ∧
            Session.eval whole session = .error (.runtime session.path whole reason') after' ∧
            reason.Moved functions program' offset reason' ∧
            after.Alike after' ∧ after'.path = after.path
        | .ok value' after => ∃ after', Session.eval whole session =
              .ok (if program'.statements.isEmpty then value else value') after' ∧
            after.Alike after' ∧ after'.path = after.path := by
  intro whole offset
  have joined := parseText_join fits parsed' parsed apart
  refine ⟨joined,moved_exactly fits parsed',?_⟩
  intro session functions limited only
  have pieces := Host.evaluate_join limited session.scope program program' offset
    ⟨0,.ofNat whole.utf8ByteSize⟩ only
  cases ran : session.host.evaluate session.scope program session.world with
  | error reason after =>
    rw [ran] at pieces
    rw [Session.eval_parsed parsed,Session.eval_parsed joined,ran,pieces]
    exact ⟨reason,rfl,rfl⟩
  | ok value middle =>
    rw [ran] at pieces
    rw [Session.eval_parsed parsed,Session.eval_parsed joined,ran]
    dsimp only at pieces ⊢
    rw [Session.eval_parsed parsed']
    dsimp only
    cases ran' : session.host.evaluate session.scope program' middle with
    | error reason after =>
      rw [ran'] at pieces
      obtain ⟨reason',after',failed,moved,same⟩ := pieces
      rw [failed]
      exact ⟨reason,reason',_,rfl,rfl,moved,⟨same,rfl,rfl⟩,rfl⟩
    | ok value' after =>
      rw [ran'] at pieces
      obtain ⟨after',succeeded,same⟩ := pieces
      rw [succeeded]
      exact ⟨_,rfl,⟨same,rfl,rfl⟩,rfl⟩

/-- An expression without its semicolon, and an error behind it. -/
theorem pieces_make_whole_error :
    let first := "let x; x"
    let second := "x = y"
    let session := Session.start fun _ => .ok 0
    let reason : RuntimeError := ⟨.unresolvedVariable "y",⟨13,14⟩⟩
    (first ++ "\n" ++ second).utf8ByteSize < UInt32.size ∧
      (∃ program, parseText first = .ok program) ∧ (∃ program, parseText second = .ok program) ∧
      (tokensOf second).head? ≠ some .leftParen ∧ session.host.Limited (fun _ => False) ∧
      session.world.store.Only (Value.Among fun _ => False) ∧
      ∃ after, Session.eval (first ++ "\n" ++ second) session =
        .error (.runtime session.path (first ++ "\n" ++ second) reason) after := by
  intro first second session reason
  have scanned : tokenize first = .ok [⟨.letWord,⟨0,3⟩⟩,⟨.ident "x",⟨4,5⟩⟩,⟨.semicolon,⟨5,6⟩⟩,
      ⟨.ident "x",⟨7,8⟩⟩,⟨.eof,⟨8,8⟩⟩] := by
    rw [tokenize,Cursor.ofText_eq]
    decide +kernel
  have scanned' : tokenize second = .ok [⟨.ident "x",⟨0,1⟩⟩,⟨.equals,⟨2,3⟩⟩,⟨.ident "y",⟨4,5⟩⟩,
      ⟨.eof,⟨5,5⟩⟩] := by
    rw [tokenize,Cursor.ofText_eq]
    decide +kernel
  have parsed : parseText first = .ok ⟨[.declaration ⟨⟨"x",⟨4,5⟩⟩,false,none,⟨0,6⟩⟩,
      .expression (.identifier ⟨"x",⟨7,8⟩⟩)],⟨0,8⟩⟩ := by
    rw [parse_of_tokenize scanned []]
    rfl
  have parsed' : parseText second = .ok ⟨[.expression (.assign (.identifier ⟨"x",⟨0,1⟩⟩)
      (.identifier ⟨"y",⟨4,5⟩⟩) ⟨0,5⟩)],⟨0,5⟩⟩ := by
    rw [parse_of_tokenize scanned' []]
    rfl
  have other : (tokensOf second).head? ≠ some .leftParen := by
    rw [tokensOf,Stream.ofText_of_tokenize scanned']
    decide
  obtain ⟨limited,only⟩ := (Session.start_firstOrder _).limited
  have fits : (first ++ "\n" ++ second).utf8ByteSize < UInt32.size := by decide
  refine ⟨fits,⟨_,parsed⟩,⟨_,parsed'⟩,other,limited,only,?_⟩
  obtain ⟨middle,ran,after,failed⟩ : ∃ middle, Session.eval first session = .ok .null middle ∧
      ∃ after, Session.eval second middle =
        .error (.runtime session.path second ⟨.unresolvedVariable "y",⟨4,5⟩⟩) after := by
    rw [Session.eval_parsed parsed]
    refine ⟨_,rfl,?_⟩
    rw [Session.eval_parsed parsed']
    exact ⟨_,rfl⟩
  have pieces := (pieces_make_whole fits parsed parsed' (.inl other)).2.2 session _ limited only
  rw [ran] at pieces
  dsimp only at pieces
  rw [failed] at pieces
  obtain ⟨reason,⟨fault,span⟩,after',same,whole,⟨sameFault,place⟩,_⟩ := pieces
  obtain ⟨_,_,rfl⟩ := Error.runtime.inj same
  rcases place with ⟨_,moved⟩ | ⟨_,_,function,_⟩
  · obtain rfl : fault = .unresolvedVariable "y" := sameFault
    obtain rfl : span = ⟨13,14⟩ := moved
    exact ⟨after',whole⟩
  · exact function.elim

/-- Where positions wrap around, a sum moves otherwise than its operands. -/
theorem far_sum_misplaced :
    let first := blanks 4294967294
    let second := "x + y"
    let sum : Statement := .expression
      (.binary .plus (.identifier ⟨"x",⟨0,1⟩⟩) (.identifier ⟨"y",⟨4,5⟩⟩) ⟨0,5⟩)
    let moved : Statement := .expression
      (.binary .plus (.identifier ⟨"x",⟨4294967295,0⟩⟩) (.identifier ⟨"y",⟨3,4⟩⟩) ⟨3,4⟩)
    parseText first = .ok ⟨[],⟨0,4294967294⟩⟩ ∧ parseText second = .ok ⟨[sum],⟨0,5⟩⟩ ∧
      tokensOf first = [] ∧ parseText (first ++ "\n" ++ second) = .ok ⟨[moved],⟨0,4⟩⟩ ∧
      moved ≠ sum.mapSpans (Span.shift (.ofNat (first.utf8ByteSize + 1))) := by
  intro first second sum moved
  have none : tokenize "" = .ok [⟨.eof,⟨0,0⟩⟩] := by
    rw [tokenize,Cursor.ofText_eq]
    decide +kernel
  have scanned : tokenize first = .ok [⟨.eof,⟨4294967294,4294967294⟩⟩] := by
    have behind := tokenize_behind none 4294967294
    rwa [String.append_empty] at behind
  have scanned' : tokenize second = .ok [⟨.ident "x",⟨0,1⟩⟩,⟨.operator .plus,⟨2,3⟩⟩,
      ⟨.ident "y",⟨4,5⟩⟩,⟨.eof,⟨5,5⟩⟩] := by
    rw [tokenize,Cursor.ofText_eq]
    decide +kernel
  have size : first.utf8ByteSize = 4294967294 := blanks_size _
  have read : tokenize first = .ok ([] ++ [Cursor.endToken (.ofNat first.utf8ByteSize)]) := by
    rw [scanned,size]
    rfl
  have whole := Cursor.tokenize_join unicode_proper read scanned'
  rw [size] at whole
  refine ⟨?_,?_,?_,?_,?_⟩
  · rw [parse_of_tokenize scanned []]
    rfl
  · rw [parse_of_tokenize scanned' []]
    rfl
  · rw [tokensOf_of_tokenize read]
    rfl
  · rw [parse_of_tokenize whole []]
    rfl
  · rw [size]
    intro same
    exact absurd (congrArg Statement.span same) (by decide)

end Scriptlet
