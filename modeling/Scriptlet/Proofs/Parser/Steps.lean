import Scriptlet.Parser

/-! What each parser does when it succeeds. One equivalence stands for each parsing rule; it
names every smaller parse and every token taken, so that facts about whole runs never open
the rules again. -/
namespace Scriptlet

namespace Feed
variable {σ : Type} [Feed σ] {feed : σ}

theorem isAt_of_current {lexeme : Lexeme} (found : current feed = some lexeme) (token : Token) :
    isAt feed token = decide (lexeme.token = token) := by
  simp only [isAt,found]

theorem isAt_iff {token : Token} :
    isAt feed token = true ↔ ∃ span, current feed = some ⟨token,span⟩ := by
  cases found : current feed with
  | none => simp [isAt,found]
  | some lexeme =>
    obtain ⟨kind,span⟩ := lexeme
    simp [isAt_of_current found]

theorem notEof_of_current {lexeme : Lexeme} (found : current feed = some lexeme) :
    notEof feed = (lexeme.token != .eof) := by
  simp only [notEof,found]

theorem notEof_iff :
    notEof feed = true ↔ ∃ lexeme, current feed = some lexeme ∧ lexeme.token ≠ .eof := by
  unfold notEof
  cases current feed <;> simp

theorem precedence_of_current {lexeme : Lexeme} (found : current feed = some lexeme) :
    precedence feed = Precedence.ofToken lexeme.token := by
  simp only [precedence,found]

/-- Only an operator binds tighter than nothing. -/
theorem operator_of_precedence {floor : Precedence}
    (tighter : floor.rank < (precedence feed).rank) :
    ∃ sign span, current feed = some ⟨.operator sign,span⟩ ∧
      precedence feed = if sign.isAdditive then .sum else .product := by
  unfold precedence at *
  cases found : current feed with
  | none => simp [found,Precedence.rank] at tighter
  | some lexeme =>
    obtain ⟨token,span⟩ := lexeme
    cases token <;> simp_all [Precedence.ofToken,Precedence.rank]

section
variable {τ : Type} [Feed τ] {other : τ} (shown : current feed = current other)
include shown

theorem isAt_congr (token : Token) : isAt feed token = isAt other token := by
  rw [isAt,isAt,shown]

theorem notEof_congr : notEof feed = notEof other := by
  rw [notEof,notEof,shown]

theorem precedence_congr : precedence feed = precedence other := by
  rw [precedence,precedence,shown]

end

theorem endSpan_congr {τ : Type} [Feed τ] {other : τ} (same : fault feed = fault other) :
    endSpan feed = endSpan other := by
  rw [endSpan,endSpan,same]

/-! Steps that cannot fail are equations. -/

variable {α β : Type}

theorem peek_bind {next : Option Lexeme → ParserOn σ β} :
    (Parser.peek >>= next) feed = next (current feed) feed := rfl

theorem isAt_bind {token : Token} {next : Bool → ParserOn σ β} :
    (Parser.isAt token >>= next) feed = next (isAt feed token) feed := rfl

theorem notEof_bind {next : Bool → ParserOn σ β} :
    (Parser.notEof >>= next) feed = next (notEof feed) feed := rfl

theorem precedence_bind {next : Precedence → ParserOn σ β} :
    (Parser.precedence >>= next) feed = next (precedence feed) feed := rfl

theorem step_bind {next : Unit → ParserOn σ β} :
    (Parser.step >>= next) feed = next () (step feed) := rfl

theorem take_bind {next : Option Lexeme → ParserOn σ β} :
    (Parser.take >>= next) feed = next (current feed) (step feed) := rfl

theorem failAtEnd_run :
    (Parser.failAtEnd : ParserOn σ α) feed = .error ⟨.unexpectedEof,endSpan feed⟩ feed := rfl

omit [Feed σ] in
theorem bind_of_ok {first : ParserOn σ α} {next : α → ParserOn σ β} {value : α} {rest : σ}
    (ok : first feed = .ok value rest) : (first >>= next) feed = next value rest := by
  change EStateM.bind first next feed = _
  simp [EStateM.bind,ok]

omit [Feed σ] in
theorem bind_of_error {first : ParserOn σ α} {next : α → ParserOn σ β} {reason : ParseError}
    {rest : σ} (failed : first feed = .error reason rest) :
    (first >>= next) feed = .error reason rest := by
  change EStateM.bind first next feed = _
  simp [EStateM.bind,failed]

omit [Feed σ] in
theorem bind_ok {first : ParserOn σ α} {next : α → ParserOn σ β} {result : β} {rest : σ} :
    (first >>= next) feed = .ok result rest ↔
      ∃ value middle, first feed = .ok value middle ∧ next value middle = .ok result rest := by
  cases outcome : first feed with
  | ok value middle =>
    rw [bind_of_ok outcome]
    constructor
    · exact fun ok => ⟨value,middle,rfl,ok⟩
    · intro parts
      obtain ⟨_,_,⟨⟩,ok⟩ := parts
      exact ok
  | error reason middle => simp [bind_of_error outcome]

end Feed

namespace Stream
variable {stream : Stream}

theorem isAt_iff {token : Token} :
    stream.isAt token = true ↔ ∃ span, stream.current = some ⟨token,span⟩ := Feed.isAt_iff

theorem isAt_of_current {lexeme : Lexeme} (found : stream.current = some lexeme) (token : Token) :
    stream.isAt token = decide (lexeme.token = token) := Feed.isAt_of_current found token

theorem notEof_iff :
    stream.notEof = true ↔ ∃ lexeme, stream.current = some lexeme ∧ lexeme.token ≠ .eof :=
  Feed.notEof_iff

theorem precedence_of_current {lexeme : Lexeme} (found : stream.current = some lexeme) :
    stream.precedence = Precedence.ofToken lexeme.token := Feed.precedence_of_current found

theorem operator_of_precedence {floor : Precedence}
    (tighter : floor.rank < stream.precedence.rank) :
    ∃ sign span, stream.current = some ⟨.operator sign,span⟩ ∧
      stream.precedence = if sign.isAdditive then .sum else .product :=
  Feed.operator_of_precedence tighter

end Stream

namespace Parser
variable {α β : Type} {stream rest : Stream}

/-! The same equations for streams. -/

theorem isAt_bind {token : Token} {next : Bool → Parser β} :
    (isAt token >>= next) stream = next (stream.isAt token) stream := rfl

theorem notEof_bind {next : Bool → Parser β} :
    (notEof >>= next) stream = next stream.notEof stream := rfl

theorem precedence_bind {next : Precedence → Parser β} :
    (precedence >>= next) stream = next stream.precedence stream := rfl

theorem peek_bind {next : Option Lexeme → Parser β} :
    (peek >>= next) stream = next stream.current stream := rfl

theorem step_bind {next : Unit → Parser β} : (step >>= next) stream = next () stream.step := rfl

theorem take_bind {next : Option Lexeme → Parser β} :
    (take >>= next) stream = next stream.current stream.step := rfl

theorem pure_run {value : α} : (pure value : Parser α) stream = .ok value stream := rfl

theorem fail_run {fault : ParseFault} {span : Span} :
    (fail fault span : Parser α) stream = .error ⟨fault,span⟩ stream := rfl

theorem failAtEnd_run :
    (failAtEnd : Parser α) stream = .error ⟨.unexpectedEof,stream.endSpan⟩ stream := rfl

theorem unexpected_run {lexeme : Lexeme} {expected : List String} :
    (unexpected lexeme expected : Parser α) stream =
      .error ⟨.unexpectedToken lexeme.token expected,lexeme.span⟩ stream := rfl

theorem bind_of_ok {first : Parser α} {next : α → Parser β} {value : α}
    (ok : first stream = .ok value rest) : (first >>= next) stream = next value rest :=
  Feed.bind_of_ok ok

theorem bind_of_error {first : Parser α} {next : α → Parser β} {reason : ParseError}
    (failed : first stream = .error reason rest) :
    (first >>= next) stream = .error reason rest := Feed.bind_of_error failed

/-! Steps that can fail, when they succeed. -/

theorem bind_ok {first : Parser α} {next : α → Parser β} {result : β} :
    (first >>= next) stream = .ok result rest ↔
      ∃ value middle, first stream = .ok value middle ∧ next value middle = .ok result rest :=
  Feed.bind_ok

private theorem pure_ok {value result : α} :
    (pure value : Parser α) stream = .ok result rest ↔ result = value ∧ stream = rest := by
  simp [pure_run,eq_comm]

private theorem bind_pure_ok {first : Parser α} {build : α → β} {result : β} :
    (first >>= fun value => pure (build value)) stream = .ok result rest ↔
      ∃ value, first stream = .ok value rest ∧ result = build value := by
  rw [bind_ok]
  constructor
  · intro parts
    obtain ⟨value,middle,ok,done⟩ := parts
    obtain ⟨same,rfl⟩ := pure_ok.mp done
    exact ⟨value,ok,same⟩
  · intro parts
    obtain ⟨value,ok,same⟩ := parts
    exact ⟨value,rest,ok,pure_ok.mpr ⟨same,rfl⟩⟩

theorem expectToken_ok {token : Token} {span : Span} :
    expectToken token stream = .ok span rest ↔
      stream.current = some ⟨token,span⟩ ∧ stream.step = rest := by
  rw [expectToken,peek_bind]
  cases found : stream.current with
  | none => simp [failAtEnd_run]
  | some lexeme =>
    obtain ⟨kind,place⟩ := lexeme
    by_cases same : kind = token
    · simp [same,step_bind,pure_run]
    · simp only [if_neg same]
      by_cases final : kind = .eof
      · simp [same,if_pos final,fail_run]
      · simp [same,if_neg final,unexpected_run]

theorem expectIdent_ok {identifier : Identifier} :
    expectIdent stream = .ok identifier rest ↔
      stream.current = some ⟨.ident identifier.name,identifier.span⟩ ∧ stream.step = rest := by
  obtain ⟨name,place⟩ := identifier
  rw [expectIdent,peek_bind]
  cases found : stream.current with
  | none => simp [failAtEnd_run]
  | some lexeme =>
    obtain ⟨kind,span⟩ := lexeme
    cases kind <;> simp [step_bind,pure_run,fail_run]

theorem number_ok {result : Expr} :
    number stream = .ok result rest ↔
      ∃ digits span value, stream.current = some ⟨.number digits,span⟩ ∧
        Number.read? digits = some value ∧ result = .number value span ∧ stream.step = rest := by
  rw [number,take_bind]
  cases found : stream.current with
  | none => simp [failAtEnd_run]
  | some lexeme =>
    obtain ⟨kind,span⟩ := lexeme
    cases kind with
    | number digits =>
      cases read : Number.read? digits with
      | none => simp [read,fail_run]
      | some value =>
        simp only [read,pure_ok,Option.some.injEq,Lexeme.mk.injEq,Token.number.injEq]
        constructor
        · intro parts
          obtain ⟨rfl,rfl⟩ := parts
          exact ⟨digits,span,value,⟨rfl,rfl⟩,read,rfl,rfl⟩
        · intro parts
          obtain ⟨_,_,_,⟨rfl,rfl⟩,again,rfl,rfl⟩ := parts
          exact ⟨by rw [Option.some.inj (read.symm.trans again)],rfl⟩
    | _ => simp [unexpected_run]

theorem operator_ok {sign : Operator} :
    operator stream = .ok sign rest ↔
      ∃ span, stream.current = some ⟨.operator sign,span⟩ ∧ stream.step = rest := by
  rw [operator,take_bind]
  cases found : stream.current with
  | none => simp [failAtEnd_run]
  | some lexeme =>
    obtain ⟨kind,span⟩ := lexeme
    cases kind <;> simp [unexpected_run,pure_run]

/-! The rules. -/

theorem expression_ok {bound : Nat} {result : Expr} :
    expression (bound + 1) stream = .ok result rest ↔
      ∃ target middle, assignee bound stream = .ok target middle ∧
        ((middle.isAt .equals = false ∧ result = target ∧ middle = rest) ∨
          (middle.isAt .equals = true ∧ ∃ value, expression bound middle.step = .ok value rest ∧
            result = .assign target value (target.span.merge value.span))) := by
  rw [expression,Production.expression,bind_ok]
  refine exists_congr fun target => exists_congr fun middle => and_congr_right fun _ => ?_
  rw [isAt_bind]
  cases middle.isAt .equals with
  | false => simp only [Bool.false_eq_true,if_false,true_and,false_and,or_false,pure_ok]
  | true =>
    simp only [Bool.true_eq_false,if_true,true_and,false_and,false_or,step_bind,bind_pure_ok]

theorem assignee_run {bound : Nat} :
    assignee (bound + 1) stream =
      if stream.isAt .leftBrace then object bound stream
      else operations bound .lowest stream := by
  rw [assignee,Production.assignee,isAt_bind]
  split <;> rfl

theorem object_ok {bound : Nat} {result : Expr} :
    object (bound + 1) stream = .ok result rest ↔
      ∃ opening content middle closing, stream.current = some ⟨.leftBrace,opening⟩ ∧
        properties bound stream.step = .ok content middle ∧
        middle.current = some ⟨.rightBrace,closing⟩ ∧ middle.step = rest ∧
        result = .object content ⟨opening.start,closing.stop⟩ := by
  simp only [object,Production.object,bind_ok,pure_ok,expectToken_ok]
  constructor
  · intro parts
    obtain ⟨opening,_,⟨found,rfl⟩,content,middle,inside,closing,_,⟨ending,rfl⟩,same,rfl⟩ := parts
    exact ⟨opening,content,middle,closing,found,inside,ending,rfl,same⟩
  · intro parts
    obtain ⟨opening,content,middle,closing,found,inside,ending,rfl,same⟩ := parts
    exact ⟨opening,_,⟨found,rfl⟩,content,middle,inside,closing,_,⟨ending,rfl⟩,same,rfl⟩

theorem properties_ok {bound : Nat} {result : List Property} :
    properties (bound + 1) stream = .ok result rest ↔
      ((stream.notEof = false ∨ stream.isAt .rightBrace = true) ∧ result = [] ∧ stream = rest) ∨
      (stream.notEof = true ∧ stream.isAt .rightBrace = false ∧ ∃ first middle others,
        property bound stream = .ok first middle ∧ properties bound middle = .ok others rest ∧
        result = first :: others) := by
  rw [properties,Production.properties,notEof_bind,isAt_bind]
  cases stream.notEof with
  | false => simp [pure_ok]
  | true =>
    cases stream.isAt .rightBrace with
    | true => simp [pure_ok]
    | false =>
      simp only [Bool.not_false,Bool.and_self,if_true,Bool.true_eq_false,Bool.false_eq_true,
        or_self,false_and,false_or,true_and]
      rw [bind_ok]
      refine exists_congr fun first => exists_congr fun middle => ?_
      rw [bind_pure_ok,exists_and_left]

theorem property_ok {bound : Nat} {result : Property} :
    property (bound + 1) stream = .ok result rest ↔
      ∃ name span, stream.current = some ⟨.ident name,span⟩ ∧
        ((stream.step.isAt .comma = true ∧ result = .shorthand name span ∧
            stream.step.step = rest) ∨
          (stream.step.isAt .rightBrace = true ∧ result = .shorthand name span ∧
            stream.step = rest) ∨
          ∃ place value middle, stream.step.current = some ⟨.colon,place⟩ ∧
            expression bound stream.step.step = .ok value middle ∧
            result = .valued name value ⟨span.start,value.span.stop⟩ ∧
            ((middle.isAt .rightBrace = true ∧ middle = rest) ∨
              (middle.isAt .comma = true ∧ middle.step = rest))) := by
  rw [property,Production.property,bind_ok]
  constructor
  · intro parts
    obtain ⟨⟨name,span⟩,_,taken,ok⟩ := parts
    obtain ⟨found,rfl⟩ := expectIdent_ok.mp taken
    refine ⟨name,span,found,?_⟩
    rw [isAt_bind] at ok
    split at ok
    · next comma =>
      obtain ⟨same,done⟩ := pure_ok.mp (step_bind ▸ ok)
      exact .inl ⟨comma,same,done⟩
    · rw [isAt_bind] at ok
      split at ok
      · next brace =>
        obtain ⟨same,done⟩ := pure_ok.mp ok
        exact .inr (.inl ⟨brace,same,done⟩)
      · obtain ⟨place,_,taken,ok⟩ := bind_ok.mp ok
        obtain ⟨colon,rfl⟩ := expectToken_ok.mp taken
        obtain ⟨value,middle,inside,ok⟩ := bind_ok.mp ok
        refine .inr (.inr ⟨place,value,middle,colon,inside,?_⟩)
        rw [isAt_bind] at ok
        cases brace : middle.isAt .rightBrace with
        | true =>
          simp only [brace,Bool.not_true,Bool.false_eq_true,if_false] at ok
          obtain ⟨same,done⟩ := pure_ok.mp ok
          exact ⟨same,.inl ⟨rfl,done⟩⟩
        | false =>
          simp only [brace,Bool.not_false,if_true] at ok
          obtain ⟨after,_,taken,ok⟩ := bind_ok.mp ok
          obtain ⟨comma,rfl⟩ := expectToken_ok.mp taken
          obtain ⟨same,done⟩ := pure_ok.mp ok
          exact ⟨same,.inr ⟨Stream.isAt_iff.mpr ⟨after,comma⟩,done⟩⟩
  · intro parts
    obtain ⟨name,span,found,cases⟩ := parts
    refine ⟨⟨name,span⟩,stream.step,expectIdent_ok.mpr ⟨found,rfl⟩,?_⟩
    rw [isAt_bind]
    rcases cases with ⟨comma,rfl,rfl⟩ | ⟨brace,rfl,rfl⟩ |
      ⟨place,value,middle,colon,inside,rfl,ending⟩
    · rw [if_pos comma]
      rfl
    · obtain ⟨after,found⟩ := Stream.isAt_iff.mp brace
      simp [Stream.isAt_of_current found,isAt_bind,pure_run]
    · simp only [Stream.isAt_of_current colon,isAt_bind,reduceCtorEq,decide_false,
        Bool.false_eq_true,if_false]
      rw [bind_of_ok (expectToken_ok.mpr ⟨colon,rfl⟩),bind_of_ok inside,isAt_bind]
      rcases ending with ⟨brace,rfl⟩ | ⟨comma,rfl⟩
      · simp [brace,pure_run]
      · obtain ⟨after,found⟩ := Stream.isAt_iff.mp comma
        simp only [Stream.isAt_of_current found,reduceCtorEq,decide_false,Bool.not_false,if_true]
        rw [bind_of_ok (expectToken_ok.mpr ⟨found,rfl⟩)]
        rfl

theorem operations_ok {bound : Nat} {floor : Precedence} {result : Expr} :
    operations (bound + 1) floor stream = .ok result rest ↔
      ∃ left middle, calls bound stream = .ok left middle ∧
        moreOperations bound floor left middle = .ok result rest := by
  rw [operations,Production.operations,bind_ok]

theorem moreOperations_ok {bound : Nat} {floor : Precedence} {left result : Expr} :
    moreOperations (bound + 1) floor left stream = .ok result rest ↔
      (¬ floor.rank < stream.precedence.rank ∧ result = left ∧ stream = rest) ∨
      (floor.rank < stream.precedence.rank ∧ ∃ whole middle,
        operation bound left stream = .ok whole middle ∧
        moreOperations bound floor whole middle = .ok result rest) := by
  rw [moreOperations,Production.moreOperations,precedence_bind]
  split
  · next tighter => simp only [tighter,not_true,false_and,true_and,false_or,bind_ok]
  · next looser => simp only [looser,not_false_eq_true,true_and,false_and,or_false,pure_ok]

theorem operation_ok {bound : Nat} {left result : Expr} :
    operation (bound + 1) left stream = .ok result rest ↔
      ∃ sign span right, stream.current = some ⟨.operator sign,span⟩ ∧
        operations bound stream.precedence stream.step = .ok right rest ∧
        result = .binary sign left right (left.span.merge right.span) := by
  rw [operation,Production.operation,precedence_bind,bind_ok]
  constructor
  · intro parts
    obtain ⟨sign,_,taken,ok⟩ := parts
    obtain ⟨span,found,rfl⟩ := operator_ok.mp taken
    obtain ⟨right,operand,same⟩ := bind_pure_ok.mp ok
    exact ⟨sign,span,right,found,operand,same⟩
  · intro parts
    obtain ⟨sign,span,right,found,operand,same⟩ := parts
    exact ⟨sign,_,operator_ok.mpr ⟨span,found,rfl⟩,bind_pure_ok.mpr ⟨right,operand,same⟩⟩

theorem calls_ok {bound : Nat} {result : Expr} :
    calls (bound + 1) stream = .ok result rest ↔
      ∃ callee middle, members bound stream = .ok callee middle ∧
        moreCalls bound callee middle = .ok result rest := by
  rw [calls,Production.calls,bind_ok]

theorem moreCalls_ok {bound : Nat} {callee result : Expr} :
    moreCalls (bound + 1) callee stream = .ok result rest ↔
      (stream.isAt .leftParen = false ∧ result = callee ∧ stream = rest) ∨
      (stream.isAt .leftParen = true ∧ ∃ whole middle, call bound callee stream = .ok whole middle ∧
        moreCalls bound whole middle = .ok result rest) := by
  rw [moreCalls,Production.moreCalls,isAt_bind]
  cases stream.isAt .leftParen with
  | false => simp only [Bool.false_eq_true,if_false,true_and,false_and,or_false,pure_ok]
  | true => simp only [Bool.true_eq_false,if_true,true_and,false_and,false_or,bind_ok]

theorem call_ok {bound : Nat} {callee result : Expr} :
    call (bound + 1) callee stream = .ok result rest ↔
      ∃ opening given middle closing, stream.current = some ⟨.leftParen,opening⟩ ∧
        ((stream.step.isAt .rightParen = true ∧ given = [] ∧ stream.step = middle) ∨
          (stream.step.isAt .rightParen = false ∧
            arguments bound stream.step = .ok given middle)) ∧
        middle.current = some ⟨.rightParen,closing⟩ ∧ middle.step = rest ∧
        result = .call callee given ⟨callee.span.start,closing.stop⟩ := by
  rw [call,Production.call,bind_ok]
  constructor
  · intro parts
    obtain ⟨opening,_,taken,ok⟩ := parts
    obtain ⟨found,rfl⟩ := expectToken_ok.mp taken
    rw [isAt_bind] at ok
    cases closed : stream.step.isAt .rightParen with
    | true =>
      simp only [closed,if_true] at ok
      obtain ⟨closing,ended,same⟩ := bind_pure_ok.mp ok
      obtain ⟨ending,rfl⟩ := expectToken_ok.mp ended
      exact ⟨opening,[],_,closing,found,.inl ⟨rfl,rfl,rfl⟩,ending,rfl,same⟩
    | false =>
      simp only [closed,Bool.false_eq_true,if_false] at ok
      obtain ⟨given,middle,inside,ok⟩ := bind_ok.mp ok
      obtain ⟨closing,ended,same⟩ := bind_pure_ok.mp ok
      obtain ⟨ending,rfl⟩ := expectToken_ok.mp ended
      exact ⟨opening,given,middle,closing,found,.inr ⟨rfl,inside⟩,ending,rfl,same⟩
  · intro parts
    obtain ⟨opening,given,middle,closing,found,inside,ending,rfl,rfl⟩ := parts
    refine ⟨opening,_,expectToken_ok.mpr ⟨found,rfl⟩,?_⟩
    rw [isAt_bind]
    rcases inside with ⟨closed,rfl,rfl⟩ | ⟨opened,inside⟩
    · rw [if_pos closed]
      exact bind_pure_ok.mpr ⟨closing,expectToken_ok.mpr ⟨ending,rfl⟩,rfl⟩
    · simp only [opened,Bool.false_eq_true,if_false]
      rw [bind_of_ok inside]
      exact bind_pure_ok.mpr ⟨closing,expectToken_ok.mpr ⟨ending,rfl⟩,rfl⟩

theorem arguments_ok {bound : Nat} {result : List Expr} :
    arguments (bound + 1) stream = .ok result rest ↔
      ∃ first middle, expression bound stream = .ok first middle ∧
        ((middle.isAt .comma = false ∧ result = [first] ∧ middle = rest) ∨
          (middle.isAt .comma = true ∧ ∃ others, arguments bound middle.step = .ok others rest ∧
            result = first :: others)) := by
  rw [arguments,Production.arguments,bind_ok]
  refine exists_congr fun first => exists_congr fun middle => and_congr_right fun _ => ?_
  rw [isAt_bind]
  cases middle.isAt .comma with
  | false => simp only [Bool.false_eq_true,if_false,true_and,false_and,or_false,pure_ok]
  | true =>
    simp only [Bool.true_eq_false,if_true,true_and,false_and,false_or,step_bind,bind_pure_ok]

theorem members_ok {bound : Nat} {result : Expr} :
    members (bound + 1) stream = .ok result rest ↔
      ∃ object middle, primary bound stream = .ok object middle ∧
        moreMembers bound object middle = .ok result rest := by
  rw [members,Production.members,bind_ok]

theorem moreMembers_ok {bound : Nat} {object result : Expr} :
    moreMembers (bound + 1) object stream = .ok result rest ↔
      ((stream.isAt .dot || stream.isAt .leftBracket) = false ∧ result = object ∧
        stream = rest) ∨
      ((stream.isAt .dot || stream.isAt .leftBracket) = true ∧ ∃ whole middle,
        member bound object stream = .ok whole middle ∧
        moreMembers bound whole middle = .ok result rest) := by
  rw [moreMembers,Production.moreMembers,isAt_bind,isAt_bind]
  cases stream.isAt .dot || stream.isAt .leftBracket with
  | false => simp only [Bool.false_eq_true,if_false,true_and,false_and,or_false,pure_ok]
  | true => simp only [Bool.true_eq_false,if_true,true_and,false_and,false_or,bind_ok]

theorem member_ok {bound : Nat} {object result : Expr} :
    member (bound + 1) object stream = .ok result rest ↔
      (∃ place name span, stream.current = some ⟨.dot,place⟩ ∧
        stream.step.current = some ⟨.ident name,span⟩ ∧ stream.step.step = rest ∧
        result = .member object ⟨name,span⟩ ⟨object.span.start,span.stop⟩) ∨
      (∃ place key middle closing, stream.current = some ⟨.leftBracket,place⟩ ∧
        expression bound stream.step = .ok key middle ∧
        middle.current = some ⟨.rightBracket,closing⟩ ∧ middle.step = rest ∧
        result = .index object key ⟨object.span.start,closing.stop⟩) := by
  rw [member,Production.member,take_bind]
  constructor
  · cases found : stream.current with
    | none => simp [failAtEnd_run]
    | some lexeme =>
      obtain ⟨kind,place⟩ := lexeme
      cases kind with
      | dot =>
        intro ok
        obtain ⟨⟨name,span⟩,taken,same⟩ := bind_pure_ok.mp ok
        obtain ⟨named,done⟩ := expectIdent_ok.mp taken
        exact .inl ⟨place,name,span,rfl,named,done,same⟩
      | leftBracket =>
        intro ok
        obtain ⟨key,middle,inside,ok⟩ := bind_ok.mp ok
        obtain ⟨closing,taken,same⟩ := bind_pure_ok.mp ok
        obtain ⟨closed,done⟩ := expectToken_ok.mp taken
        exact .inr ⟨place,key,middle,closing,rfl,inside,closed,done,same⟩
      | _ => simp [unexpected_run]
  · intro parts
    rcases parts with ⟨place,name,span,found,named,done,same⟩ |
      ⟨place,key,middle,closing,found,inside,closed,done,same⟩
    · simp only [found]
      exact bind_pure_ok.mpr ⟨⟨name,span⟩,expectIdent_ok.mpr ⟨named,done⟩,same⟩
    · simp only [found]
      rw [bind_of_ok inside]
      exact bind_pure_ok.mpr ⟨closing,expectToken_ok.mpr ⟨closed,done⟩,same⟩

theorem primary_ok {bound : Nat} {result : Expr} :
    primary (bound + 1) stream = .ok result rest ↔
      (∃ name span, stream.current = some ⟨.ident name,span⟩ ∧ stream.step = rest ∧
        result = .identifier ⟨name,span⟩) ∨
      (∃ digits span value, stream.current = some ⟨.number digits,span⟩ ∧
        Number.read? digits = some value ∧ result = .number value span ∧ stream.step = rest) ∨
      (∃ opening middle closing, stream.current = some ⟨.leftParen,opening⟩ ∧
        expression bound stream.step = .ok result middle ∧
        middle.current = some ⟨.rightParen,closing⟩ ∧ middle.step = rest) := by
  rw [primary,Production.primary,peek_bind]
  constructor
  · cases found : stream.current with
    | none => simp [failAtEnd_run]
    | some lexeme =>
      obtain ⟨kind,place⟩ := lexeme
      cases kind with
      | ident name =>
        intro ok
        obtain ⟨⟨again,span⟩,taken,same⟩ := bind_pure_ok.mp ok
        obtain ⟨named,done⟩ := expectIdent_ok.mp taken
        exact .inl ⟨again,span,found ▸ named,done,same⟩
      | number digits =>
        intro ok
        obtain ⟨again,span,value,numbered,meaning⟩ := number_ok.mp ok
        exact .inr (.inl ⟨again,span,value,found ▸ numbered,meaning⟩)
      | leftParen =>
        dsimp only
        rw [step_bind]
        intro ok
        obtain ⟨inner,middle,inside,ok⟩ := bind_ok.mp ok
        obtain ⟨closing,taken,same⟩ := bind_pure_ok.mp ok
        obtain ⟨closed,done⟩ := expectToken_ok.mp taken
        exact .inr (.inr ⟨place,middle,closing,rfl,same ▸ inside,closed,done⟩)
      | eof => simp [fail_run]
      | _ => simp [unexpected_run]
  · intro parts
    rcases parts with ⟨name,span,found,done,same⟩ | ⟨digits,span,value,found,read,same,done⟩ |
      ⟨opening,middle,closing,found,inside,closed,done⟩
    · simp only [found]
      exact bind_pure_ok.mpr ⟨⟨name,span⟩,expectIdent_ok.mpr ⟨found,done⟩,same⟩
    · simp only [found]
      exact number_ok.mpr ⟨digits,span,value,found,read,same,done⟩
    · simp only [found]
      rw [step_bind,bind_of_ok inside]
      exact bind_pure_ok.mpr ⟨closing,expectToken_ok.mpr ⟨closed,done⟩,rfl⟩

theorem declaration_ok {bound : Nat} {result : Declaration} :
    declaration bound stream = .ok result rest ↔
      ∃ opening name span, stream.current = some opening ∧
        stream.step.current = some ⟨.ident name,span⟩ ∧
        ((∃ closing, opening.token ≠ .constWord ∧
            stream.step.step.current = some ⟨.semicolon,closing⟩ ∧
            stream.step.step.step = rest ∧
            result = ⟨⟨name,span⟩,false,none,⟨opening.span.start,closing.stop⟩⟩) ∨
          ∃ place value middle closing, stream.step.step.current = some ⟨.equals,place⟩ ∧
            expression bound stream.step.step.step = .ok value middle ∧
            middle.current = some ⟨.semicolon,closing⟩ ∧ middle.step = rest ∧
            result = ⟨⟨name,span⟩,opening.token = .constWord,some value,
              ⟨opening.span.start,closing.stop⟩⟩) := by
  rw [declaration,Production.declaration,take_bind]
  constructor
  · cases found : stream.current with
    | none => simp [failAtEnd_run]
    | some opening =>
      intro ok
      obtain ⟨⟨name,span⟩,_,taken,ok⟩ := bind_ok.mp ok
      obtain ⟨named,rfl⟩ := expectIdent_ok.mp taken
      refine ⟨opening,name,span,rfl,named,?_⟩
      rw [isAt_bind] at ok
      split at ok
      · by_cases constant : opening.token = .constWord
        · simp [constant,fail_run] at ok
        · simp only [constant,if_false] at ok
          obtain ⟨closing,taken,same⟩ := bind_pure_ok.mp ok
          obtain ⟨closed,done⟩ := expectToken_ok.mp taken
          exact .inl ⟨closing,constant,closed,done,by simpa using same⟩
      · obtain ⟨place,_,taken,ok⟩ := bind_ok.mp ok
        obtain ⟨equals,rfl⟩ := expectToken_ok.mp taken
        obtain ⟨value,middle,inside,ok⟩ := bind_ok.mp ok
        obtain ⟨closing,taken,same⟩ := bind_pure_ok.mp ok
        obtain ⟨closed,done⟩ := expectToken_ok.mp taken
        exact .inr ⟨place,value,middle,closing,equals,inside,closed,done,same⟩
  · intro parts
    obtain ⟨opening,name,span,found,named,form⟩ := parts
    simp only [found]
    have taken : expectIdent stream.step = .ok ⟨name,span⟩ stream.step.step :=
      expectIdent_ok.mpr ⟨named,rfl⟩
    rw [bind_of_ok taken,isAt_bind]
    rcases form with ⟨closing,constant,closed,done,same⟩ |
      ⟨place,value,middle,closing,equals,inside,closed,done,same⟩
    · simp only [Stream.isAt_of_current closed,decide_true,if_true,constant,if_false]
      exact bind_pure_ok.mpr ⟨closing,expectToken_ok.mpr ⟨closed,done⟩,by simpa using same⟩
    · simp only [Stream.isAt_of_current equals,reduceCtorEq,decide_false,Bool.false_eq_true,
        if_false]
      rw [bind_of_ok (expectToken_ok.mpr ⟨equals,rfl⟩),bind_of_ok inside]
      exact bind_pure_ok.mpr ⟨closing,expectToken_ok.mpr ⟨closed,done⟩,same⟩

theorem statement_ok {bound : Nat} {result : Statement} :
    statement bound stream = .ok result rest ↔
      ∃ lexeme, stream.current = some lexeme ∧
        ((lexeme.token.isReserved = true ∧ ∃ content,
            declaration bound stream = .ok content rest ∧ result = .declaration content) ∨
          (lexeme.token.isReserved = false ∧ ∃ content middle,
            expression bound stream = .ok content middle ∧ result = .expression content ∧
            (if middle.isAt .semicolon then middle.step else middle) = rest)) := by
  rw [statement,Production.statement,peek_bind]
  cases found : stream.current with
  | none => simp [failAtEnd_run]
  | some lexeme =>
    cases reserved : lexeme.token.isReserved with
    | true =>
      simp only [reserved,if_true]
      rw [bind_pure_ok]
      constructor
      · exact fun ok => ⟨lexeme,rfl,.inl ⟨reserved,ok⟩⟩
      · intro parts
        obtain ⟨_,⟨⟩,⟨_,ok⟩ | ⟨free,_⟩⟩ := parts
        · exact ok
        · simp [reserved] at free
    | false =>
      simp only [reserved,Bool.false_eq_true,if_false]
      rw [bind_ok]
      constructor
      · intro parts
        obtain ⟨content,middle,inside,ok⟩ := parts
        refine ⟨lexeme,rfl,.inr ⟨reserved,content,middle,inside,?_⟩⟩
        rw [isAt_bind] at ok
        split at ok
        · next closed => simpa [closed,step_bind,pure_ok] using ok
        · next opened => simpa [opened,pure_ok] using ok
      · intro parts
        obtain ⟨_,⟨⟩,⟨free,_⟩ | ⟨_,content,middle,inside,same,done⟩⟩ := parts
        · simp [reserved] at free
        · refine ⟨content,middle,inside,?_⟩
          rw [isAt_bind]
          split at done
          · next closed => simpa [closed,step_bind,pure_ok] using ⟨same,done⟩
          · next opened => simpa [opened,pure_ok] using ⟨same,done⟩

theorem statements_ok {bound : Nat} {result : List Statement} :
    statements (bound + 1) stream = .ok result rest ↔
      (stream.notEof = false ∧ result = [] ∧ stream = rest) ∨
      (stream.notEof = true ∧ ∃ first middle others, statement bound stream = .ok first middle ∧
        statements bound middle = .ok others rest ∧ result = first :: others) := by
  rw [statements,Production.statements,notEof_bind]
  cases stream.notEof with
  | false => simp only [Bool.false_eq_true,if_false,true_and,false_and,or_false,pure_ok]
  | true =>
    simp only [Bool.true_eq_false,if_true,true_and,false_and,false_or]
    rw [bind_ok]
    refine exists_congr fun first => exists_congr fun middle => ?_
    rw [bind_pure_ok,exists_and_left]

theorem program_ok {bound : Nat} {result : Program} :
    program bound stream = .ok result rest ↔
      ∃ content, statements bound stream = .ok content rest ∧
        result = ⟨content,⟨0,match rest.current,content.getLast? with
          | some lexeme,_ => lexeme.span.stop
          | none,some last => last.span.stop
          | none,none => 0⟩⟩ := by
  rw [program,Production.program,bind_ok]
  constructor
  · intro parts
    obtain ⟨content,middle,inside,ok⟩ := parts
    obtain ⟨same,rfl⟩ := pure_ok.mp (peek_bind ▸ ok)
    exact ⟨content,inside,same⟩
  · intro parts
    obtain ⟨content,inside,same⟩ := parts
    exact ⟨content,rest,inside,pure_ok.mpr ⟨same,rfl⟩⟩

end Parser
end Scriptlet
