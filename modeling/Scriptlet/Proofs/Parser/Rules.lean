import Scriptlet.Proofs.Parser.Steps

/-! The parsing rules without their bound: what each rule makes of a stream when the smaller
parsers succeed. -/
namespace Scriptlet.Parser
open Scriptlet.Stream

variable {α : Type} {stream middle rest : Stream}

/-- The parser succeeds under every sufficient bound. -/
def Parses (parser : Nat → Parser α) (stream : Stream) (value : α) (rest : Stream) : Prop :=
  ∃ least, ∀ bound, least ≤ bound → parser bound stream = .ok value rest

theorem Parses.of_succ {parser : Nat → Parser α} {value : α} {least : Nat}
    (ok : ∀ bound, least ≤ bound → parser (bound + 1) stream = .ok value rest) :
    Parses parser stream value rest := by
  refine ⟨least + 1,?_⟩
  intro bound enough
  obtain ⟨bound,rfl⟩ : ∃ less, bound = less + 1 := ⟨bound - 1,by omega⟩
  exact ok bound (by omega)

/-! One rule after the other, without its bound. -/

variable {left right tree : Expr}

theorem parses_target (first : Parses assignee stream tree rest)
    (free : rest.isAt .equals = false) : Parses expression stream tree rest := by
  obtain ⟨least,ok⟩ := first
  apply Parses.of_succ
  intro bound enough
  exact expression_ok.mpr ⟨tree,rest,ok bound enough,.inl ⟨free,rfl,rfl⟩⟩

theorem parses_assign (first : Parses assignee stream left middle)
    (equals : middle.isAt .equals = true)
    (second : Parses expression middle.step right rest) :
    Parses expression stream (.assign left right (left.span.merge right.span)) rest := by
  obtain ⟨least,ok⟩ := first
  obtain ⟨least',ok'⟩ := second
  apply Parses.of_succ
  intro bound (enough : max least least' ≤ bound)
  exact expression_ok.mpr ⟨left,middle,ok bound (by omega),
    .inr ⟨equals,right,ok' bound (by omega),rfl⟩⟩

theorem parses_operations (other : stream.isAt .leftBrace = false)
    (ops : Parses (operations · .lowest) stream tree rest) : Parses assignee stream tree rest := by
  obtain ⟨least,ok⟩ := ops
  apply Parses.of_succ
  intro bound enough
  rw [assignee_run,if_neg (by simp [other])]
  exact ok bound enough

theorem parses_object {opening closing : Span} {content : List Property}
    (found : stream.current = some ⟨.leftBrace,opening⟩)
    (inside : Parses properties stream.step content middle)
    (closed : middle.current = some ⟨.rightBrace,closing⟩) :
    Parses object stream (.object content ⟨opening.start,closing.stop⟩) middle.step := by
  obtain ⟨least,ok⟩ := inside
  apply Parses.of_succ
  intro bound enough
  exact object_ok.mpr ⟨opening,content,middle,closing,found,ok bound enough,closed,rfl,rfl⟩

theorem parses_braced (brace : stream.isAt .leftBrace = true)
    (inside : Parses object stream tree rest) : Parses assignee stream tree rest := by
  obtain ⟨least,ok⟩ := inside
  apply Parses.of_succ
  intro bound enough
  rw [assignee_run,if_pos brace]
  exact ok bound enough

theorem parses_noProperties (brace : stream.isAt .rightBrace = true) :
    Parses properties stream [] stream := by
  apply Parses.of_succ
  intro bound (_ : 0 ≤ bound)
  exact properties_ok.mpr (.inl ⟨.inr brace,rfl,rfl⟩)

theorem parses_moreProperties {first : Property} {others : List Property} {name : String}
    {span : Span} (named : stream.current = some ⟨.ident name,span⟩)
    (head : Parses property stream first middle) (tail : Parses properties middle others rest) :
    Parses properties stream (first :: others) rest := by
  obtain ⟨least,ok⟩ := head
  obtain ⟨least',ok'⟩ := tail
  apply Parses.of_succ
  intro bound (enough : max least least' ≤ bound)
  refine properties_ok.mpr (.inr ⟨notEof_iff.mpr ⟨_,named,by simp⟩,?_,first,middle,others,
    ok bound (by omega),ok' bound (by omega),rfl⟩)
  simp [isAt_of_current named]

theorem parses_shorthand {name : String} {span : Span}
    (named : stream.current = some ⟨.ident name,span⟩) :
    (stream.step.isAt .comma = true →
      Parses property stream (.shorthand name span) stream.step.step) ∧
    (stream.step.isAt .rightBrace = true →
      Parses property stream (.shorthand name span) stream.step) := by
  constructor
  · intro comma
    apply Parses.of_succ
    intro bound (_ : 0 ≤ bound)
    exact property_ok.mpr ⟨name,span,named,.inl ⟨comma,rfl,rfl⟩⟩
  · intro brace
    apply Parses.of_succ
    intro bound (_ : 0 ≤ bound)
    exact property_ok.mpr ⟨name,span,named,.inr (.inl ⟨brace,rfl,rfl⟩)⟩

theorem parses_valued {name : String} {span place : Span}
    (named : stream.current = some ⟨.ident name,span⟩)
    (colon : stream.step.current = some ⟨.colon,place⟩)
    (inside : Parses expression stream.step.step tree middle) :
    (middle.isAt .comma = true →
      Parses property stream (.valued name tree ⟨span.start,tree.span.stop⟩) middle.step) ∧
    (middle.isAt .rightBrace = true →
      Parses property stream (.valued name tree ⟨span.start,tree.span.stop⟩) middle) := by
  obtain ⟨least,ok⟩ := inside
  constructor
  · intro comma
    apply Parses.of_succ
    intro bound enough
    exact property_ok.mpr ⟨name,span,named,.inr (.inr ⟨place,tree,middle,colon,
      ok bound enough,rfl,.inr ⟨comma,rfl⟩⟩)⟩
  · intro brace
    apply Parses.of_succ
    intro bound enough
    exact property_ok.mpr ⟨name,span,named,.inr (.inr ⟨place,tree,middle,colon,
      ok bound enough,rfl,.inl ⟨brace,rfl⟩⟩)⟩

theorem parses_firstOperand {floor : Precedence} (operand : Parses calls stream left middle)
    (more : Parses (moreOperations · floor left) middle tree rest) :
    Parses (operations · floor) stream tree rest := by
  obtain ⟨least,ok⟩ := operand
  obtain ⟨least',ok'⟩ := more
  apply Parses.of_succ
  intro bound (enough : max least least' ≤ bound)
  exact operations_ok.mpr ⟨left,middle,ok bound (by omega),ok' bound (by omega)⟩

theorem parses_noOperation {floor : Precedence}
    (looser : stream.precedence.rank ≤ floor.rank) :
    Parses (moreOperations · floor tree) stream tree stream := by
  apply Parses.of_succ
  intro bound (_ : 0 ≤ bound)
  exact moreOperations_ok.mpr (.inl ⟨Nat.not_lt.mpr looser,rfl,rfl⟩)

theorem parses_operation {floor : Precedence} {sign : Operator} {span : Span}
    (found : stream.current = some ⟨.operator sign,span⟩)
    (tighter : floor.rank < stream.precedence.rank)
    (operand : Parses (operations · stream.precedence) stream.step right middle)
    (more : Parses (moreOperations · floor
      (.binary sign left right (left.span.merge right.span))) middle tree rest) :
    Parses (moreOperations · floor left) stream tree rest := by
  obtain ⟨least,ok⟩ := operand
  obtain ⟨least',ok'⟩ := more
  apply Parses.of_succ
  intro bound (enough : max least least' + 1 ≤ bound)
  obtain ⟨bound,rfl⟩ : ∃ less, bound = less + 1 := ⟨bound - 1,by omega⟩
  refine moreOperations_ok.mpr (.inr ⟨tighter,_,middle,?_,ok' _ (by omega)⟩)
  exact operation_ok.mpr ⟨sign,span,right,found,ok bound (by omega),rfl⟩

theorem parses_callee (first : Parses members stream left middle)
    (more : Parses (moreCalls · left) middle tree rest) : Parses calls stream tree rest := by
  obtain ⟨least,ok⟩ := first
  obtain ⟨least',ok'⟩ := more
  apply Parses.of_succ
  intro bound (enough : max least least' ≤ bound)
  exact calls_ok.mpr ⟨left,middle,ok bound (by omega),ok' bound (by omega)⟩

theorem parses_noCall (free : stream.isAt .leftParen = false) :
    Parses (moreCalls · tree) stream tree stream := by
  apply Parses.of_succ
  intro bound (_ : 0 ≤ bound)
  exact moreCalls_ok.mpr (.inl ⟨free,rfl,rfl⟩)

def ParsesGiven (stream : Stream) (given : List Expr) (rest : Stream) : Prop :=
  (stream.isAt .rightParen = true ∧ given = [] ∧ stream = rest) ∨
    (stream.isAt .rightParen = false ∧ Parses arguments stream given rest)

theorem parses_call {opening closing : Span} {given : List Expr}
    (found : stream.current = some ⟨.leftParen,opening⟩)
    (inside : ParsesGiven stream.step given middle)
    (closed : middle.current = some ⟨.rightParen,closing⟩)
    (more : Parses (moreCalls · (.call left given ⟨left.span.start,closing.stop⟩)) middle.step
      tree rest) :
    Parses (moreCalls · left) stream tree rest := by
  obtain ⟨least',ok'⟩ := more
  obtain ⟨least,ok⟩ : ∃ least, ∀ bound, least ≤ bound → call (bound + 1) left stream =
      .ok (.call left given ⟨left.span.start,closing.stop⟩) middle.step := by
    rcases inside with ⟨ended,rfl,rfl⟩ | ⟨opened,least,ok⟩
    · exact ⟨0,fun bound _ => call_ok.mpr ⟨opening,[],_,closing,found,.inl ⟨ended,rfl,rfl⟩,
        closed,rfl,rfl⟩⟩
    · exact ⟨least,fun bound enough => call_ok.mpr ⟨opening,given,middle,closing,found,
        .inr ⟨opened,ok bound enough⟩,closed,rfl,rfl⟩⟩
  apply Parses.of_succ
  intro bound (enough : max least least' + 1 ≤ bound)
  obtain ⟨bound,rfl⟩ : ∃ less, bound = less + 1 := ⟨bound - 1,by omega⟩
  exact moreCalls_ok.mpr (.inr ⟨isAt_iff.mpr ⟨opening,found⟩,_,_,ok bound (by omega),
    ok' _ (by omega)⟩)

theorem parses_lastArgument (last : Parses expression stream tree rest)
    (free : rest.isAt .comma = false) : Parses arguments stream [tree] rest := by
  obtain ⟨least,ok⟩ := last
  apply Parses.of_succ
  intro bound enough
  exact arguments_ok.mpr ⟨tree,rest,ok bound enough,.inl ⟨free,rfl,rfl⟩⟩

theorem parses_moreArguments {others : List Expr} (first : Parses expression stream tree middle)
    (comma : middle.isAt .comma = true) (more : Parses arguments middle.step others rest) :
    Parses arguments stream (tree :: others) rest := by
  obtain ⟨least,ok⟩ := first
  obtain ⟨least',ok'⟩ := more
  apply Parses.of_succ
  intro bound (enough : max least least' ≤ bound)
  exact arguments_ok.mpr ⟨tree,middle,ok bound (by omega),
    .inr ⟨comma,others,ok' bound (by omega),rfl⟩⟩

theorem parses_holder (first : Parses primary stream left middle)
    (more : Parses (moreMembers · left) middle tree rest) : Parses members stream tree rest := by
  obtain ⟨least,ok⟩ := first
  obtain ⟨least',ok'⟩ := more
  apply Parses.of_succ
  intro bound (enough : max least least' ≤ bound)
  exact members_ok.mpr ⟨left,middle,ok bound (by omega),ok' bound (by omega)⟩

theorem parses_noMember (noName : stream.isAt .dot = false)
    (noKey : stream.isAt .leftBracket = false) :
    Parses (moreMembers · tree) stream tree stream := by
  apply Parses.of_succ
  intro bound (_ : 0 ≤ bound)
  exact moreMembers_ok.mpr (.inl ⟨by simp [noName,noKey],rfl,rfl⟩)

theorem parses_named {place span : Span} {name : String}
    (found : stream.current = some ⟨.dot,place⟩)
    (named : stream.step.current = some ⟨.ident name,span⟩)
    (more : Parses (moreMembers · (.member left ⟨name,span⟩ ⟨left.span.start,span.stop⟩))
      stream.step.step tree rest) :
    Parses (moreMembers · left) stream tree rest := by
  obtain ⟨least,ok⟩ := more
  apply Parses.of_succ
  intro bound (enough : least + 1 ≤ bound)
  obtain ⟨bound,rfl⟩ : ∃ less, bound = less + 1 := ⟨bound - 1,by omega⟩
  refine moreMembers_ok.mpr (.inr ⟨by simp [isAt_of_current found],_,_,?_,ok _ (by omega)⟩)
  exact member_ok.mpr (.inl ⟨place,name,span,found,named,rfl,rfl⟩)

theorem parses_computed {place closing : Span} (found : stream.current = some ⟨.leftBracket,place⟩)
    (inside : Parses expression stream.step right middle)
    (closed : middle.current = some ⟨.rightBracket,closing⟩)
    (more : Parses (moreMembers · (.index left right ⟨left.span.start,closing.stop⟩))
      middle.step tree rest) :
    Parses (moreMembers · left) stream tree rest := by
  obtain ⟨least,ok⟩ := inside
  obtain ⟨least',ok'⟩ := more
  apply Parses.of_succ
  intro bound (enough : max least least' + 1 ≤ bound)
  obtain ⟨bound,rfl⟩ : ∃ less, bound = less + 1 := ⟨bound - 1,by omega⟩
  refine moreMembers_ok.mpr (.inr ⟨by simp [isAt_of_current found],_,_,?_,ok' _ (by omega)⟩)
  exact member_ok.mpr (.inr ⟨place,right,middle,closing,found,ok bound (by omega),closed,rfl,rfl⟩)

theorem parses_identifier {name : String} {span : Span}
    (found : stream.current = some ⟨.ident name,span⟩) :
    Parses primary stream (.identifier ⟨name,span⟩) stream.step := by
  apply Parses.of_succ
  intro bound (_ : 0 ≤ bound)
  exact primary_ok.mpr (.inl ⟨name,span,found,rfl,rfl⟩)

theorem parses_number {digits : String} {span : Span} {value : Float}
    (found : stream.current = some ⟨.number digits,span⟩)
    (read : Number.read? digits = some value) :
    Parses primary stream (.number value span) stream.step := by
  apply Parses.of_succ
  intro bound (_ : 0 ≤ bound)
  exact primary_ok.mpr (.inr (.inl ⟨digits,span,value,found,read,rfl,rfl⟩))

theorem parses_parentheses {opening closing : Span}
    (found : stream.current = some ⟨.leftParen,opening⟩)
    (inside : Parses expression stream.step tree middle)
    (closed : middle.current = some ⟨.rightParen,closing⟩) :
    Parses primary stream tree middle.step := by
  obtain ⟨least,ok⟩ := inside
  apply Parses.of_succ
  intro bound enough
  exact primary_ok.mpr (.inr (.inr ⟨opening,middle,closing,found,ok bound enough,closed,rfl⟩))

end Scriptlet.Parser
