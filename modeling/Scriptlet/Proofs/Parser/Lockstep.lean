import Scriptlet.Proofs.Parser.Steps

/-! Two feeds parsed side by side. A parser sees nothing of a feed but its current token, and a
whole program is parsed without a step over the end token. Feeds that show the same token, and go
on doing so until they come to the end token, are therefore parsed alike. -/
namespace Scriptlet.Parser

variable {σ τ α β : Type} [Feed σ] [Feed τ] {alike : σ → τ → Prop} {feed : σ} {other : τ}

/-- Related feeds show the same token, and a step over it leads to related feeds unless it is the
end token. -/
structure Lockstep (alike : σ → τ → Prop) : Prop where
  current : ∀ {feed other}, alike feed other → Feed.current feed = Feed.current other
  step : ∀ {feed other lexeme}, alike feed other → Feed.current feed = some lexeme →
    lexeme.token ≠ .eof → alike (Feed.step feed) (Feed.step other)

/-- Equal answers at related feeds. Errors may differ in the place of an end without a token. -/
inductive Agree (alike : σ → τ → Prop) :
    EStateM.Result ParseError σ α → EStateM.Result ParseError τ α → Prop where
  | ok {value rest rest'} (related : alike rest rest') :
      Agree alike (.ok value rest) (.ok value rest')
  | error {reason reason' rest rest'} (related : alike rest rest')
      (same : Feed.endSpan rest = Feed.endSpan rest' → reason = reason') :
      Agree alike (.error reason rest) (.error reason' rest')

theorem Agree.of_ok {value : α} {rest : σ} {answer : EStateM.Result ParseError τ α}
    (agreed : Agree alike (.ok value rest) answer) :
    ∃ rest', answer = .ok value rest' ∧ alike rest rest' := by
  cases agreed with
  | ok related => exact ⟨_,rfl,related⟩

theorem Agree.of_error {reason : ParseError} {rest : σ}
    {answer : EStateM.Result ParseError τ α} (agreed : Agree alike (.error reason rest) answer) :
    ∃ reason' rest', answer = .error reason' rest' ∧ alike rest rest' ∧
      (Feed.endSpan rest = Feed.endSpan rest' → reason = reason') := by
  cases agreed with
  | error related same => exact ⟨_,_,rfl,related,same⟩

def Tracks (alike : σ → τ → Prop) (parser : ParserOn σ α) (parser' : ParserOn τ α) : Prop :=
  ∀ ⦃feed other⦄, alike feed other → Agree alike (parser feed) (parser' other)

private theorem agree_bind {first : ParserOn σ α} {first' : ParserOn τ α} {next : α → ParserOn σ β}
    {next' : α → ParserOn τ β} (start : Agree alike (first feed) (first' other))
    (onward : ∀ value rest rest', first feed = .ok value rest → alike rest rest' →
      Agree alike (next value rest) (next' value rest')) :
    Agree alike ((first >>= next) feed) ((first' >>= next') other) := by
  cases here : first feed with
  | ok value rest =>
    rw [here] at start
    obtain ⟨rest',there,related⟩ := start.of_ok
    rw [Feed.bind_of_ok here,Feed.bind_of_ok there]
    exact onward value rest rest' here related
  | error reason rest =>
    rw [here] at start
    obtain ⟨reason',rest',there,related,same⟩ := start.of_error
    rw [Feed.bind_of_error here,Feed.bind_of_error there]
    exact .error related same

theorem Tracks.bind {first : ParserOn σ α} {first' : ParserOn τ α} {next : α → ParserOn σ β}
    {next' : α → ParserOn τ β} (start : Tracks alike first first')
    (onward : ∀ value, Tracks alike (next value) (next' value)) :
    Tracks alike (first >>= next) (first' >>= next') := by
  intro feed other related
  apply agree_bind (start related)
  intro value rest rest' _ related
  exact onward value related

private theorem tracks_pure (value : α) : Tracks alike (pure value) (pure value) :=
  fun _ _ related => .ok related

private theorem tracks_fail (fault : ParseFault) (span : Span) :
    Tracks alike (fail fault span : ParserOn σ α) (fail fault span) :=
  fun _ _ related => .error related fun _ => rfl

private theorem tracks_failAtEnd : Tracks alike (failAtEnd : ParserOn σ α) failAtEnd := by
  intro feed other related
  rw [Feed.failAtEnd_run,Feed.failAtEnd_run]
  apply Agree.error related
  intro same
  rw [same]

private theorem tracks_unexpected (lexeme : Lexeme) (expected : List String) :
    Tracks alike (unexpected lexeme expected : ParserOn σ α) (unexpected lexeme expected) :=
  tracks_fail _ _

section
variable (lock : Lockstep alike)
include lock

theorem Lockstep.isAt (related : alike feed other) (token : Token) :
    Feed.isAt feed token = Feed.isAt other token := Feed.isAt_congr (lock.current related) token

theorem Lockstep.notEof (related : alike feed other) : Feed.notEof feed = Feed.notEof other :=
  Feed.notEof_congr (lock.current related)

theorem Lockstep.precedence (related : alike feed other) :
    Feed.precedence feed = Feed.precedence other := Feed.precedence_congr (lock.current related)

theorem Lockstep.over {token : Token} (related : alike feed other)
    (here : Feed.isAt feed token = true) (inner : token ≠ .eof) :
    alike (Feed.step feed) (Feed.step other) := by
  obtain ⟨span,found⟩ := Feed.isAt_iff.mp here
  exact lock.step related found inner

private theorem tracks_ifAt {token : Token} {held missing : ParserOn σ α}
    {held' missing' : ParserOn τ α}
    (yes : ∀ {feed other}, alike feed other → Feed.isAt feed token = true →
      Agree alike (held feed) (held' other))
    (no : Tracks alike missing missing') :
    Tracks alike (do if ← isAt token then held else missing)
      (do if ← isAt token then held' else missing') := by
  intro feed other related
  rw [Feed.isAt_bind,Feed.isAt_bind,← lock.isAt related]
  split
  · next here => exact yes related here
  · exact no related

private theorem tracks_expectToken (token : Token) (inner : token ≠ .eof) :
    Tracks alike (expectToken token) (expectToken token) := by
  intro feed other related
  rw [expectToken,expectToken,Feed.peek_bind,Feed.peek_bind,← lock.current related]
  cases found : Feed.current feed with
  | none => exact tracks_failAtEnd related
  | some lexeme =>
    dsimp only
    split
    · next same =>
      rw [Feed.step_bind,Feed.step_bind]
      exact .ok (lock.step related found (same ▸ inner))
    · split
      · exact tracks_fail _ _ related
      · exact tracks_unexpected _ _ related

private theorem tracks_expectIdent : Tracks alike expectIdent expectIdent := by
  intro feed other related
  rw [expectIdent,expectIdent,Feed.peek_bind,Feed.peek_bind,← lock.current related]
  cases found : Feed.current feed with
  | none => exact tracks_failAtEnd related
  | some lexeme =>
    obtain ⟨kind,span⟩ := lexeme
    cases kind with
    | ident name =>
      dsimp only
      rw [Feed.step_bind,Feed.step_bind]
      exact .ok (lock.step related found (by simp))
    | _ => exact tracks_fail _ _ related

/-! A parser that takes the current token unseen answers alike where the step keeps the feeds
related. -/

theorem agree_number (related : alike feed other)
    (stepped : alike (Feed.step feed) (Feed.step other)) :
    Agree alike (number feed) (number other) := by
  rw [number,number,Feed.take_bind,Feed.take_bind,← lock.current related]
  cases Feed.current feed with
  | none => exact tracks_failAtEnd stepped
  | some lexeme =>
    obtain ⟨kind,span⟩ := lexeme
    cases kind with
    | number digits =>
      cases read : Number.read? digits with
      | some value => simpa only [read] using tracks_pure _ stepped
      | none => simpa only [read] using tracks_fail _ _ stepped
    | _ => exact tracks_unexpected _ _ stepped

private theorem agree_operator (related : alike feed other)
    (stepped : alike (Feed.step feed) (Feed.step other)) :
    Agree alike (operator feed) (operator other) := by
  rw [operator,operator,Feed.take_bind,Feed.take_bind,← lock.current related]
  cases Feed.current feed with
  | none => exact tracks_failAtEnd stepped
  | some lexeme =>
    obtain ⟨kind,span⟩ := lexeme
    cases kind with
    | operator sign => exact .ok stepped
    | _ => exact tracks_unexpected _ _ stepped

end

/-- Every rule answers alike on related feeds. -/
structure Tracking (alike : σ → τ → Prop) (bound : Nat) : Prop where
  expression : Tracks alike (Parser.expression bound) (Parser.expression bound)
  assignee : Tracks alike (Parser.assignee bound) (Parser.assignee bound)
  object : Tracks alike (Parser.object bound) (Parser.object bound)
  properties : Tracks alike (Parser.properties bound) (Parser.properties bound)
  property : Tracks alike (Parser.property bound) (Parser.property bound)
  operations : ∀ floor, Tracks alike (Parser.operations bound floor) (Parser.operations bound floor)
  moreOperations : ∀ floor left,
    Tracks alike (Parser.moreOperations bound floor left) (Parser.moreOperations bound floor left)
  operation : ∀ left {feed other}, alike feed other → alike (Feed.step feed) (Feed.step other) →
    Agree alike (Parser.operation bound left feed) (Parser.operation bound left other)
  calls : Tracks alike (Parser.calls bound) (Parser.calls bound)
  moreCalls : ∀ callee, Tracks alike (Parser.moreCalls bound callee) (Parser.moreCalls bound callee)
  call : ∀ callee, Tracks alike (Parser.call bound callee) (Parser.call bound callee)
  arguments : Tracks alike (Parser.arguments bound) (Parser.arguments bound)
  members : Tracks alike (Parser.members bound) (Parser.members bound)
  moreMembers : ∀ object,
    Tracks alike (Parser.moreMembers bound object) (Parser.moreMembers bound object)
  member : ∀ object {feed other}, alike feed other → alike (Feed.step feed) (Feed.step other) →
    Agree alike (Parser.member bound object feed) (Parser.member bound object other)
  primary : Tracks alike (Parser.primary bound) (Parser.primary bound)

private theorem tracking_zero : Tracking alike 0 where
  expression := tracks_failAtEnd
  assignee := tracks_failAtEnd
  object := tracks_failAtEnd
  properties := tracks_failAtEnd
  property := tracks_failAtEnd
  operations _ := tracks_failAtEnd
  moreOperations _ _ := tracks_failAtEnd
  operation _ _ _ related _ := tracks_failAtEnd related
  calls := tracks_failAtEnd
  moreCalls _ := tracks_failAtEnd
  call _ := tracks_failAtEnd
  arguments := tracks_failAtEnd
  members := tracks_failAtEnd
  moreMembers _ := tracks_failAtEnd
  member _ _ _ related _ := tracks_failAtEnd related
  primary := tracks_failAtEnd

section
variable {bound : Nat} (lock : Lockstep alike) (tracking : Tracking alike bound)
include lock tracking

private theorem expression_tracks :
    Tracks alike (expression (bound + 1)) (expression (bound + 1)) := by
  rw [expression,expression,Production.expression,Production.expression]
  apply tracking.assignee.bind
  intro target
  apply tracks_ifAt lock
  · intro feed other related here
    rw [Feed.step_bind,Feed.step_bind]
    exact (tracking.expression.bind fun _ => tracks_pure _) (lock.over related here (by simp))
  · exact tracks_pure target

private theorem assignee_tracks : Tracks alike (assignee (bound + 1)) (assignee (bound + 1)) := by
  rw [assignee,assignee,Production.assignee,Production.assignee]
  apply tracks_ifAt lock
  · intro feed other related _
    exact tracking.object related
  · exact tracking.operations .lowest

private theorem object_tracks : Tracks alike (object (bound + 1)) (object (bound + 1)) := by
  rw [object,object,Production.object,Production.object]
  apply (tracks_expectToken lock .leftBrace (by simp)).bind
  intro opening
  apply tracking.properties.bind
  intro content
  exact (tracks_expectToken lock .rightBrace (by simp)).bind fun _ => tracks_pure _

private theorem properties_tracks :
    Tracks alike (properties (bound + 1)) (properties (bound + 1)) := by
  intro feed other related
  rw [properties,properties,Production.properties,Production.properties,Feed.notEof_bind,
    Feed.notEof_bind,Feed.isAt_bind,Feed.isAt_bind,← lock.notEof related,
    ← lock.isAt related]
  split
  · exact (tracking.property.bind fun _ => tracking.properties.bind fun _ => tracks_pure _) related
  · exact .ok related

private theorem property_tracks : Tracks alike (property (bound + 1)) (property (bound + 1)) := by
  rw [property,property,Production.property,Production.property]
  apply (tracks_expectIdent lock).bind
  intro key
  apply tracks_ifAt lock
  · intro feed other related here
    rw [Feed.step_bind,Feed.step_bind]
    exact .ok (lock.over related here (by simp))
  apply tracks_ifAt lock
  · intro feed other related _
    exact .ok related
  apply (tracks_expectToken lock .colon (by simp)).bind
  intro _
  apply tracking.expression.bind
  intro value feed other related
  rw [Feed.isAt_bind,Feed.isAt_bind,← lock.isAt related]
  split
  · exact ((tracks_expectToken lock .comma (by simp)).bind fun _ => tracks_pure _) related
  · exact .ok related

omit lock in
private theorem operations_tracks (floor : Precedence) :
    Tracks alike (operations (bound + 1) floor) (operations (bound + 1) floor) := by
  rw [operations,operations,Production.operations,Production.operations]
  exact tracking.calls.bind (tracking.moreOperations floor)

private theorem moreOperations_tracks (floor : Precedence) (left : Expr) :
    Tracks alike (moreOperations (bound + 1) floor left)
      (moreOperations (bound + 1) floor left) := by
  intro feed other related
  rw [moreOperations,moreOperations,Production.moreOperations,Production.moreOperations,
    Feed.precedence_bind,Feed.precedence_bind,← lock.precedence related]
  split
  · next tighter =>
    obtain ⟨sign,span,found,_⟩ := Feed.operator_of_precedence tighter
    apply agree_bind (tracking.operation left related (lock.step related found (by simp)))
    intro whole rest rest' _ related
    exact tracking.moreOperations floor whole related
  · exact .ok related

private theorem operation_tracks (left : Expr) (related : alike feed other)
    (stepped : alike (Feed.step feed) (Feed.step other)) :
    Agree alike (operation (bound + 1) left feed) (operation (bound + 1) left other) := by
  rw [operation,operation,Production.operation,Production.operation,Feed.precedence_bind,
    Feed.precedence_bind,← lock.precedence related]
  apply agree_bind (agree_operator lock related stepped)
  intro sign rest rest' _ related
  exact ((tracking.operations _).bind fun _ => tracks_pure _) related

omit lock in
private theorem calls_tracks : Tracks alike (calls (bound + 1)) (calls (bound + 1)) := by
  rw [calls,calls,Production.calls,Production.calls]
  exact tracking.members.bind tracking.moreCalls

private theorem moreCalls_tracks (callee : Expr) :
    Tracks alike (moreCalls (bound + 1) callee) (moreCalls (bound + 1) callee) := by
  rw [moreCalls,moreCalls,Production.moreCalls,Production.moreCalls]
  apply tracks_ifAt lock
  · intro feed other related _
    exact ((tracking.call callee).bind tracking.moreCalls) related
  · exact tracks_pure callee

private theorem call_tracks (callee : Expr) :
    Tracks alike (call (bound + 1) callee) (call (bound + 1) callee) := by
  rw [call,call,Production.call,Production.call]
  apply (tracks_expectToken lock .leftParen (by simp)).bind
  intro _ feed other related
  rw [Feed.isAt_bind,Feed.isAt_bind,← lock.isAt related]
  have ended (given : List Expr) : Tracks alike
      (do
        let closing ← expectToken .rightParen
        return Expr.call callee given ⟨callee.span.start,closing.stop⟩)
      (do
        let closing ← expectToken .rightParen
        return Expr.call callee given ⟨callee.span.start,closing.stop⟩) :=
    (tracks_expectToken lock .rightParen (by simp)).bind fun _ => tracks_pure _
  split
  · exact ((tracks_pure []).bind ended) related
  · exact (tracking.arguments.bind ended) related

private theorem arguments_tracks :
    Tracks alike (arguments (bound + 1)) (arguments (bound + 1)) := by
  rw [arguments,arguments,Production.arguments,Production.arguments]
  apply tracking.expression.bind
  intro first
  apply tracks_ifAt lock
  · intro feed other related here
    rw [Feed.step_bind,Feed.step_bind]
    exact (tracking.arguments.bind fun _ => tracks_pure _) (lock.over related here (by simp))
  · exact tracks_pure [first]

omit lock in
private theorem members_tracks : Tracks alike (members (bound + 1)) (members (bound + 1)) := by
  rw [members,members,Production.members,Production.members]
  exact tracking.primary.bind tracking.moreMembers

private theorem moreMembers_tracks (object : Expr) :
    Tracks alike (moreMembers (bound + 1) object) (moreMembers (bound + 1) object) := by
  intro feed other related
  rw [moreMembers,moreMembers,Production.moreMembers,Production.moreMembers,Feed.isAt_bind,
    Feed.isAt_bind,Feed.isAt_bind,Feed.isAt_bind,← lock.isAt related,
    ← lock.isAt related]
  split
  · next here =>
    have stepped : alike (Feed.step feed) (Feed.step other) := by
      rcases Bool.or_eq_true _ _ |>.mp here with dot | bracket
      · exact lock.over related dot (by simp)
      · exact lock.over related bracket (by simp)
    apply agree_bind (tracking.member object related stepped)
    intro whole rest rest' _ related
    exact tracking.moreMembers whole related
  · exact .ok related

private theorem member_tracks (object : Expr) (related : alike feed other)
    (stepped : alike (Feed.step feed) (Feed.step other)) :
    Agree alike (member (bound + 1) object feed) (member (bound + 1) object other) := by
  rw [member,member,Production.member,Production.member,Feed.take_bind,Feed.take_bind,
    ← lock.current related]
  cases Feed.current feed with
  | none => exact tracks_failAtEnd stepped
  | some lexeme =>
    obtain ⟨kind,span⟩ := lexeme
    cases kind with
    | dot => exact ((tracks_expectIdent lock).bind fun _ => tracks_pure _) stepped
    | leftBracket =>
      exact (tracking.expression.bind fun _ =>
        (tracks_expectToken lock .rightBracket (by simp)).bind fun _ => tracks_pure _) stepped
    | _ => exact tracks_unexpected _ _ stepped

private theorem primary_tracks : Tracks alike (primary (bound + 1)) (primary (bound + 1)) := by
  intro feed other related
  rw [primary,primary,Production.primary,Production.primary,Feed.peek_bind,Feed.peek_bind,
    ← lock.current related]
  cases found : Feed.current feed with
  | none => exact tracks_failAtEnd related
  | some lexeme =>
    obtain ⟨kind,span⟩ := lexeme
    cases kind with
    | ident name => exact ((tracks_expectIdent lock).bind fun _ => tracks_pure _) related
    | number digits => exact agree_number lock related (lock.step related found (by simp))
    | leftParen =>
      dsimp only
      rw [Feed.step_bind,Feed.step_bind]
      exact (tracking.expression.bind fun _ => (tracks_expectToken lock .rightParen (by simp)).bind
        fun _ => tracks_pure _) (lock.step related found (by simp))
    | eof => exact tracks_fail _ _ related
    | _ => exact tracks_unexpected _ _ related

private theorem tracking_succ : Tracking alike (bound + 1) where
  expression := expression_tracks lock tracking
  assignee := assignee_tracks lock tracking
  object := object_tracks lock tracking
  properties := properties_tracks lock tracking
  property := property_tracks lock tracking
  operations := operations_tracks tracking
  moreOperations := moreOperations_tracks lock tracking
  operation left _ _ := operation_tracks lock tracking left
  calls := calls_tracks tracking
  moreCalls := moreCalls_tracks lock tracking
  call := call_tracks lock tracking
  arguments := arguments_tracks lock tracking
  members := members_tracks tracking
  moreMembers := moreMembers_tracks lock tracking
  member object _ _ := member_tracks lock tracking object
  primary := primary_tracks lock tracking

end

/-- Whatever the bound, every rule answers alike on related feeds. -/
theorem tracking (lock : Lockstep alike) (bound : Nat) : Tracking alike bound := by
  induction bound with
  | zero => exact tracking_zero
  | succ bound ih => exact tracking_succ lock ih

/-! Statements. -/

section
variable (lock : Lockstep alike) (bound : Nat)
include lock

theorem declaration_tracks (related : alike feed other)
    (stepped : alike (Feed.step feed) (Feed.step other)) :
    Agree alike (declaration bound feed) (declaration bound other) := by
  rw [declaration,declaration,Production.declaration,Production.declaration,Feed.take_bind,
    Feed.take_bind,← lock.current related]
  cases Feed.current feed with
  | none => exact tracks_failAtEnd stepped
  | some opening =>
    dsimp only
    refine (tracks_expectIdent lock).bind (fun identifier => ?_) stepped
    apply tracks_ifAt lock
    · intro feed other related _
      split
      · exact tracks_fail _ _ related
      · exact ((tracks_expectToken lock .semicolon (by simp)).bind fun _ => tracks_pure _) related
    · apply (tracks_expectToken lock .equals (by simp)).bind
      intro _
      apply (tracking lock bound).expression.bind
      intro value
      exact (tracks_expectToken lock .semicolon (by simp)).bind fun _ => tracks_pure _

theorem statement_tracks : Tracks alike (statement bound) (statement bound) := by
  intro feed other related
  rw [statement,statement,Production.statement,Production.statement,Feed.peek_bind,Feed.peek_bind,
    ← lock.current related]
  cases found : Feed.current feed with
  | none => exact tracks_failAtEnd related
  | some lexeme =>
    dsimp only
    split
    · next reserved =>
      have inner : lexeme.token ≠ .eof := by
        intro final
        simp [final,Token.isReserved] at reserved
      apply agree_bind (declaration_tracks lock bound related (lock.step related found inner))
      intro content rest rest' _ related
      exact .ok related
    · refine (tracking lock bound).expression.bind (fun tree => ?_) related
      intro feed other related
      rw [Feed.isAt_bind,Feed.isAt_bind,← lock.isAt related]
      split
      · next here => exact .ok (lock.over related here (by simp))
      · exact .ok related

private theorem statements_tracks : Tracks alike (statements bound) (statements bound) := by
  induction bound with
  | zero => exact tracks_failAtEnd
  | succ bound ih =>
    intro feed other related
    rw [statements,statements,Production.statements,Production.statements,Feed.notEof_bind,
      Feed.notEof_bind,← lock.notEof related]
    split
    · exact ((statement_tracks lock bound).bind fun _ => ih.bind fun _ => tracks_pure _) related
    · exact .ok related

theorem program_tracks : Tracks alike (program bound) (program bound) := by
  rw [program,program,Production.program,Production.program]
  apply (statements_tracks lock bound).bind
  intro content feed other related
  rw [Feed.peek_bind,Feed.peek_bind,← lock.current related]
  exact .ok related

end
end Scriptlet.Parser
