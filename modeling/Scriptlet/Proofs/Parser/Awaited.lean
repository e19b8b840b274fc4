import Scriptlet.Proofs.Parser.Prefix

/-! Where names are awaited. Every rule reports the end of the tokens as such, except behind the
keyword of a declaration and behind a dot, where it looks for a name first. Rules start and stop
between such places. -/
namespace Scriptlet

def Token.awaitsName : Token → Bool
  | .dot => true
  | token => token.isReserved

namespace Parser
open Scriptlet.Stream

variable {α β : Type} {whole : List Lexeme} {stream rest : Stream} {lexeme : Lexeme}

def Awaits (whole : List Lexeme) (stream : Stream) : Prop :=
  ∃ front last, whole = front ++ last :: stream.tokens ∧ last.token.awaitsName = true

structure Leaves (whole : List Lexeme) (stream : Stream) : Prop where
  steady : stream.Steady
  suffix : stream.tokens <:+ whole

/-- Between two tokens where no name is awaited. -/
structure Between (whole : List Lexeme) (stream : Stream) : Prop extends Leaves whole stream where
  free : ¬ Awaits whole stream

theorem Leaves.step (left : Leaves whole stream) (found : stream.current = some lexeme)
    (inner : lexeme.token ≠ .eof) : Leaves whole stream.step ∧
      (Awaits whole stream.step ↔ lexeme.token.awaitsName = true) := by
  obtain ⟨front,held⟩ := left.suffix
  have parts := tokens_of_current left.steady found inner
  rw [parts] at held
  refine ⟨⟨(Takes.one left.steady found inner).steady,front ++ [lexeme],by simpa using held⟩,?_⟩
  constructor
  · rintro ⟨other,last,again,awaits⟩
    obtain ⟨_,same⟩ := List.append_inj' (held.trans again) (by simp)
    obtain ⟨rfl,_⟩ := List.cons.inj same
    exact awaits
  · exact fun awaits => ⟨front,lexeme,held.symm,awaits⟩

theorem Between.step (between : Between whole stream) (found : stream.current = some lexeme)
    (inner : lexeme.token ≠ .eof) (plain : lexeme.token.awaitsName = false) :
    Between whole stream.step := by
  obtain ⟨left,awaits⟩ := between.toLeaves.step found inner
  exact ⟨left,by simp [awaits,plain]⟩

theorem Between.over {token : Token} (between : Between whole stream)
    (here : stream.isAt token = true) (inner : token ≠ .eof) (plain : token.awaitsName = false) :
    Between whole stream.step := by
  obtain ⟨span,found⟩ := isAt_iff.mp here
  exact between.step found inner plain

/-- What an error tells about the place where it was met. -/
inductive Told (whole : List Lexeme) : ParseError → Stream → Prop where
  | ident {lexeme : Lexeme} {rest : Stream} (left : Leaves whole rest)
      (found : rest.current = some lexeme) (awaited : lexeme.token = .eof → Awaits whole rest) :
      Told whole ⟨.expectedIdent,lexeme.span⟩ rest
  | ending {span : Span} {rest : Stream} (between : Between whole rest)
      (found : rest.current = some ⟨.eof,span⟩) : Told whole ⟨.unexpectedEof,span⟩ rest
  | used {rest : Stream} : Told whole ⟨.unexpectedEof,rest.endSpan⟩ rest
  | other {reason : ParseError} {rest : Stream} (named : reason.fault ≠ .expectedIdent)
      (proper : reason.fault ≠ .unexpectedEof) : Told whole reason rest

def Answers (whole : List Lexeme) : EStateM.Result ParseError Stream α → Prop
  | .ok _ rest => Between whole rest
  | .error reason rest => Told whole reason rest

def Minds (whole : List Lexeme) (parser : Parser α) : Prop :=
  ∀ ⦃stream⦄, Between whole stream → Answers whole (parser stream)

private theorem answers_bind {first : Parser α} {next : α → Parser β}
    (start : Answers whole (first stream)) (onward : ∀ value, Minds whole (next value)) :
    Answers whole ((first >>= next) stream) := by
  cases ran : first stream with
  | ok value rest =>
    rw [ran] at start
    rw [bind_of_ok ran]
    exact onward value start
  | error reason rest =>
    rw [ran] at start
    rw [bind_of_error ran]
    exact start

theorem Minds.bind {first : Parser α} {next : α → Parser β} (start : Minds whole first)
    (onward : ∀ value, Minds whole (next value)) : Minds whole (first >>= next) :=
  fun _ between => answers_bind (start between) onward

private theorem minds_pure (value : α) : Minds whole (pure value) := fun _ between => between

private theorem answers_failAtEnd : Answers whole ((failAtEnd : Parser α) stream) := .used

private theorem minds_failAtEnd : Minds whole (failAtEnd : Parser α) := fun _ _ => .used

private theorem answers_unexpected (lexeme : Lexeme) (expected : List String) :
    Answers whole ((unexpected lexeme expected : Parser α) stream) := .other (by simp) (by simp)

private theorem minds_ifAt {token : Token} {held missing : Parser α}
    (yes : ∀ {stream}, Between whole stream → stream.isAt token = true →
      Answers whole (held stream))
    (no : Minds whole missing) : Minds whole (do if ← isAt token then held else missing) := by
  intro stream between
  rw [isAt_bind]
  split
  · next here => exact yes between here
  · exact no between

private theorem minds_expectToken {token : Token} (inner : token ≠ .eof)
    (plain : token.awaitsName = false) : Minds whole (expectToken token) := by
  intro stream between
  rw [expectToken,peek_bind]
  cases found : stream.current with
  | none => exact answers_failAtEnd
  | some lexeme =>
    dsimp only
    split
    · next same =>
      subst same
      exact between.step found inner plain
    · split
      · next final =>
        obtain ⟨_,span⟩ := lexeme
        subst final
        exact .ending between found
      · exact answers_unexpected _ _

private theorem answers_expectIdent (left : Leaves whole stream)
    (awaited : ∀ lexeme, stream.current = some lexeme → lexeme.token = .eof → Awaits whole stream) :
    Answers whole (expectIdent stream) := by
  rw [expectIdent,peek_bind]
  cases found : stream.current with
  | none => exact answers_failAtEnd
  | some lexeme =>
    obtain ⟨kind,span⟩ := lexeme
    cases kind with
    | ident name =>
      obtain ⟨left,awaits⟩ := left.step found (by simp)
      exact ⟨left,by simp [awaits,Token.awaitsName,Token.isReserved]⟩
    | _ => exact .ident left found (awaited _ found)

/-- Where there is a token that is not the end, a name can be looked for. -/
theorem Between.expectIdent (between : Between whole stream) (found : stream.current = some lexeme)
    (inner : lexeme.token ≠ .eof) : Answers whole (expectIdent stream) := by
  apply answers_expectIdent between.toLeaves
  intro other again final
  obtain rfl := Option.some.inj (found.symm.trans again)
  exact (inner final).elim

private theorem Between.expectAwaited (between : Between whole stream)
    (found : stream.current = some lexeme) (inner : lexeme.token ≠ .eof)
    (awaits : lexeme.token.awaitsName = true) :
    Answers whole (Parser.expectIdent stream.step) := by
  obtain ⟨left,awaited⟩ := between.toLeaves.step found inner
  exact answers_expectIdent left fun _ _ _ => awaited.mpr awaits

private theorem answers_number {digits : String} {span : Span} (between : Between whole stream)
    (found : stream.current = some ⟨.number digits,span⟩) : Answers whole (number stream) := by
  rw [number,take_bind,found]
  cases read : Number.read? digits with
  | some value => simpa only [read] using minds_pure _ (between.step found (by simp) rfl)
  | none =>
    simp only [read]
    exact .other (by simp) (by simp)

private theorem answers_operator {sign : Operator} {span : Span} (between : Between whole stream)
    (found : stream.current = some ⟨.operator sign,span⟩) : Answers whole (operator stream) := by
  rw [operator,take_bind,found]
  exact minds_pure _ (between.step found (by simp) rfl)

/-- Every rule stops between two tokens if it starts there, or tells where it failed. A rule that
takes its first token unseen is entered in front of that token only. -/
structure Minding (whole : List Lexeme) (bound : Nat) : Prop where
  expression : Minds whole (Parser.expression bound)
  assignee : Minds whole (Parser.assignee bound)
  object : Minds whole (Parser.object bound)
  properties : Minds whole (Parser.properties bound)
  property : ∀ {stream lexeme}, Between whole stream → stream.current = some lexeme →
    lexeme.token ≠ .eof → Answers whole (Parser.property bound stream)
  operations : ∀ floor, Minds whole (Parser.operations bound floor)
  moreOperations : ∀ floor left, Minds whole (Parser.moreOperations bound floor left)
  operation : ∀ left {stream sign span}, Between whole stream →
    stream.current = some ⟨.operator sign,span⟩ →
    Answers whole (Parser.operation bound left stream)
  calls : Minds whole (Parser.calls bound)
  moreCalls : ∀ callee, Minds whole (Parser.moreCalls bound callee)
  call : ∀ callee, Minds whole (Parser.call bound callee)
  arguments : Minds whole (Parser.arguments bound)
  members : Minds whole (Parser.members bound)
  moreMembers : ∀ object, Minds whole (Parser.moreMembers bound object)
  member : ∀ object {stream lexeme}, Between whole stream → stream.current = some lexeme →
    lexeme.token ≠ .eof → Answers whole (Parser.member bound object stream)
  primary : Minds whole (Parser.primary bound)

private theorem minding_zero : Minding whole 0 where
  expression := minds_failAtEnd
  assignee := minds_failAtEnd
  object := minds_failAtEnd
  properties := minds_failAtEnd
  property between _ _ := minds_failAtEnd between
  operations _ := minds_failAtEnd
  moreOperations _ _ := minds_failAtEnd
  operation _ _ _ _ between _ := minds_failAtEnd between
  calls := minds_failAtEnd
  moreCalls _ := minds_failAtEnd
  call _ := minds_failAtEnd
  arguments := minds_failAtEnd
  members := minds_failAtEnd
  moreMembers _ := minds_failAtEnd
  member _ _ _ between _ _ := minds_failAtEnd between
  primary := minds_failAtEnd

section
variable {bound : Nat} (minding : Minding whole bound)
include minding

private theorem expression_minds : Minds whole (expression (bound + 1)) := by
  rw [expression,Production.expression]
  apply minding.assignee.bind
  intro target
  apply minds_ifAt
  · intro stream between here
    rw [step_bind]
    exact (minding.expression.bind fun _ => minds_pure _) (between.over here (by simp) rfl)
  · exact minds_pure target

private theorem assignee_minds : Minds whole (assignee (bound + 1)) := by
  rw [assignee,Production.assignee]
  apply minds_ifAt
  · intro stream between _
    exact minding.object between
  · exact minding.operations .lowest

private theorem object_minds : Minds whole (object (bound + 1)) := by
  rw [object,Production.object]
  apply (minds_expectToken (by simp) rfl).bind
  intro opening
  apply minding.properties.bind
  intro content
  exact (minds_expectToken (by simp) rfl).bind fun _ => minds_pure _

private theorem properties_minds : Minds whole (properties (bound + 1)) := by
  intro stream between
  rw [properties,Production.properties,notEof_bind,isAt_bind]
  split
  · next here =>
    obtain ⟨lexeme,found,inner⟩ := notEof_iff.mp (Bool.and_eq_true _ _ |>.mp here).1
    apply answers_bind (minding.property between found inner)
    intro first
    exact minding.properties.bind fun _ => minds_pure _
  · exact between

private theorem property_minds (between : Between whole stream)
    (found : stream.current = some lexeme)
    (inner : lexeme.token ≠ .eof) : Answers whole (property (bound + 1) stream) := by
  rw [property,Production.property]
  apply answers_bind (between.expectIdent found inner)
  intro key
  apply minds_ifAt
  · intro stream between here
    exact between.over here (by simp) rfl
  apply minds_ifAt
  · intro stream between _
    exact between
  apply (minds_expectToken (by simp) rfl).bind
  intro _
  apply minding.expression.bind
  intro value stream between
  rw [isAt_bind]
  split
  · exact ((minds_expectToken (by simp) rfl).bind fun _ => minds_pure _) between
  · exact between

private theorem operations_minds (floor : Precedence) :
    Minds whole (operations (bound + 1) floor) := by
  rw [operations,Production.operations]
  exact minding.calls.bind (minding.moreOperations floor)

private theorem moreOperations_minds (floor : Precedence) (left : Expr) :
    Minds whole (moreOperations (bound + 1) floor left) := by
  intro stream between
  rw [moreOperations,Production.moreOperations,precedence_bind]
  split
  · next tighter =>
    obtain ⟨sign,span,found,_⟩ := operator_of_precedence tighter
    exact answers_bind (minding.operation left between found) (minding.moreOperations floor)
  · exact between

private theorem operation_minds (left : Expr) {sign : Operator} {span : Span}
    (between : Between whole stream) (found : stream.current = some ⟨.operator sign,span⟩) :
    Answers whole (operation (bound + 1) left stream) := by
  rw [operation,Production.operation,precedence_bind]
  apply answers_bind (answers_operator between found)
  intro sign
  exact (minding.operations _).bind fun _ => minds_pure _

private theorem calls_mind : Minds whole (calls (bound + 1)) := by
  rw [calls,Production.calls]
  exact minding.members.bind minding.moreCalls

private theorem moreCalls_mind (callee : Expr) : Minds whole (moreCalls (bound + 1) callee) := by
  rw [moreCalls,Production.moreCalls]
  apply minds_ifAt
  · intro stream between _
    exact ((minding.call callee).bind minding.moreCalls) between
  · exact minds_pure callee

private theorem call_minds (callee : Expr) : Minds whole (call (bound + 1) callee) := by
  rw [call,Production.call]
  apply (minds_expectToken (by simp) rfl).bind
  intro _ stream between
  rw [isAt_bind]
  have ended (given : List Expr) : Minds whole (do
      let closing ← expectToken .rightParen
      return Expr.call callee given ⟨callee.span.start,closing.stop⟩) :=
    (minds_expectToken (by simp) rfl).bind fun _ => minds_pure _
  split
  · exact ((minds_pure []).bind ended) between
  · exact (minding.arguments.bind ended) between

private theorem arguments_mind : Minds whole (arguments (bound + 1)) := by
  rw [arguments,Production.arguments]
  apply minding.expression.bind
  intro first
  apply minds_ifAt
  · intro stream between here
    rw [step_bind]
    exact (minding.arguments.bind fun _ => minds_pure _) (between.over here (by simp) rfl)
  · exact minds_pure [first]

private theorem members_mind : Minds whole (members (bound + 1)) := by
  rw [members,Production.members]
  exact minding.primary.bind minding.moreMembers

private theorem moreMembers_mind (object : Expr) :
    Minds whole (moreMembers (bound + 1) object) := by
  intro stream between
  rw [moreMembers,Production.moreMembers,isAt_bind,isAt_bind]
  split
  · next here =>
    obtain ⟨lexeme,found,inner⟩ :
        ∃ lexeme, stream.current = some lexeme ∧ lexeme.token ≠ .eof := by
      rcases Bool.or_eq_true _ _ |>.mp here with dot | bracket
      · obtain ⟨span,found⟩ := isAt_iff.mp dot
        exact ⟨_,found,by simp⟩
      · obtain ⟨span,found⟩ := isAt_iff.mp bracket
        exact ⟨_,found,by simp⟩
    exact answers_bind (minding.member object between found inner) minding.moreMembers
  · exact between

private theorem member_minds (object : Expr) (between : Between whole stream)
    (found : stream.current = some lexeme) (inner : lexeme.token ≠ .eof) :
    Answers whole (member (bound + 1) object stream) := by
  rw [member,Production.member,take_bind,found]
  obtain ⟨kind,span⟩ := lexeme
  cases kind with
  | dot => exact answers_bind (between.expectAwaited found inner rfl) fun _ => minds_pure _
  | leftBracket =>
    apply answers_bind (minding.expression (between.step found inner rfl))
    intro key
    exact (minds_expectToken (by simp) rfl).bind fun _ => minds_pure _
  | _ => exact answers_unexpected _ _

private theorem primary_minds : Minds whole (primary (bound + 1)) := by
  intro stream between
  rw [primary,Production.primary,peek_bind]
  cases found : stream.current with
  | none => exact answers_failAtEnd
  | some lexeme =>
    obtain ⟨kind,span⟩ := lexeme
    cases kind with
    | ident name => exact answers_bind (between.expectIdent found (by simp)) fun _ => minds_pure _
    | number digits => exact answers_number between found
    | leftParen =>
      dsimp only
      rw [step_bind]
      apply answers_bind (minding.expression (between.step found (by simp) rfl))
      intro inner
      exact (minds_expectToken (by simp) rfl).bind fun _ => minds_pure _
    | eof => exact .ending between found
    | _ => exact answers_unexpected _ _

private theorem minding_succ : Minding whole (bound + 1) where
  expression := expression_minds minding
  assignee := assignee_minds minding
  object := object_minds minding
  properties := properties_minds minding
  property := property_minds minding
  operations := operations_minds minding
  moreOperations := moreOperations_minds minding
  operation left _ _ _ := operation_minds minding left
  calls := calls_mind minding
  moreCalls := moreCalls_mind minding
  call := call_minds minding
  arguments := arguments_mind minding
  members := members_mind minding
  moreMembers := moreMembers_mind minding
  member object _ _ := member_minds minding object
  primary := primary_minds minding

end

private theorem minding (bound : Nat) : Minding whole bound := by
  induction bound with
  | zero => exact minding_zero
  | succ bound ih => exact minding_succ ih

/-! Statements. -/

variable {bound : Nat}

private theorem declaration_minds (between : Between whole stream)
    (found : stream.current = some lexeme) (reserved : lexeme.token.isReserved = true) :
    Answers whole (declaration bound stream) := by
  have awaits : lexeme.token.awaitsName = true := by
    unfold Token.awaitsName
    split
    · rfl
    · exact reserved
  rw [declaration,Production.declaration,take_bind,found]
  apply answers_bind (between.expectAwaited found (reserved_ne_eof reserved) awaits)
  intro identifier
  apply minds_ifAt
  · intro stream between _
    split
    · exact .other (by simp) (by simp)
    · exact ((minds_expectToken (by simp) rfl).bind fun _ => minds_pure _) between
  · apply (minds_expectToken (by simp) rfl).bind
    intro _
    apply (minding bound).expression.bind
    intro value
    exact (minds_expectToken (by simp) rfl).bind fun _ => minds_pure _

private theorem statement_minds : Minds whole (statement bound) := by
  intro stream between
  rw [statement,Production.statement,peek_bind]
  cases found : stream.current with
  | none => exact answers_failAtEnd
  | some lexeme =>
    dsimp only
    split
    · next reserved =>
      exact answers_bind (declaration_minds between found reserved) fun _ => minds_pure _
    · apply answers_bind ((minding bound).expression between)
      intro tree stream between
      rw [isAt_bind]
      split
      · next here => exact between.over here (by simp) rfl
      · exact between

theorem statements_mind (bound : Nat) : Minds whole (statements bound) := by
  induction bound with
  | zero => exact minds_failAtEnd
  | succ bound ih =>
    intro stream between
    rw [statements,Production.statements,notEof_bind]
    split
    · exact (statement_minds.bind fun _ => ih.bind fun _ => minds_pure _) between
    · exact between

end Parser
end Scriptlet
