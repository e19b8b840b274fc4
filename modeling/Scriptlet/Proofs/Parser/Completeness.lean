import Scriptlet.Proofs.Parser.Bound
import Scriptlet.Proofs.Parser.Rules

/-! Every phrase is parsed to its tree when nothing behind it can be read as more of it. A
phrase that a loop extends is followed through the loop: whatever the loop makes of the rest,
the whole parser makes of the phrase and the rest. -/
namespace Scriptlet

def Token.grip : Token → Nat
  | .dot | .leftBracket => 5
  | .leftParen => 4
  | .operator sign => if sign.isAdditive then 2 else 3
  | .equals => 1
  | _ => 0

def Stream.grip (stream : Stream) : Nat :=
  match stream.current with
  | some lexeme => lexeme.token.grip
  | none => 0

namespace Parser
open Grammar Scriptlet.Stream

variable {α : Type} {stream middle rest final : Stream}

theorem grip_of_current {lexeme : Lexeme} (found : stream.current = some lexeme) :
    stream.grip = lexeme.token.grip := by
  simp only [Stream.grip,found]

theorem isAt_of_grip_lt {token : Token} (loose : stream.grip < token.grip) :
    stream.isAt token = false := by
  cases here : stream.isAt token with
  | false => rfl
  | true =>
    obtain ⟨span,found⟩ := isAt_iff.mp here
    rw [grip_of_current found] at loose
    simp at loose

theorem rank_le_of_grip : stream.precedence.rank ≤ stream.grip - 1 := by
  cases found : stream.current with
  | none =>
    have loose : stream.precedence = .lowest := by
      simp only [Stream.precedence,Feed.precedence,feed_current,found]
    simp [loose,Precedence.rank]
  | some lexeme =>
    rw [precedence_of_current found,Stream.grip,found]
    obtain ⟨kind,span⟩ := lexeme
    cases kind with
    | operator sign =>
      simp only [Precedence.ofToken,Token.grip]
      split <;> simp [Precedence.rank]
    | _ => simp [Precedence.ofToken,Precedence.rank]

/-- A phrase is parsed to its tree, up to places, wherever no token behind it extends it. -/
def Recognised (tokens : List Token) : Phrase → Prop
  | .expression tree => ∀ {stream rest}, stream.Takes tokens rest → rest.grip = 0 →
      ∃ parsed, parsed.erase = tree ∧ Parses expression stream parsed rest
  | .assignee tree => ∀ {stream rest}, stream.Takes tokens rest → rest.grip ≤ 1 →
      ∃ parsed, parsed.erase = tree ∧ Parses assignee stream parsed rest
  | .properties trees => ∀ {stream rest}, stream.Takes tokens rest →
      rest.isAt .rightBrace = true →
      ∃ parsed, parsed.map Property.erase = trees ∧ Parses properties stream parsed rest
  | .property tree => ∀ {stream rest}, stream.Takes tokens rest → rest.grip = 0 →
      ∃ parsed, parsed.erase = tree ∧
        (rest.isAt .comma = true → Parses property stream parsed rest.step) ∧
        (rest.isAt .rightBrace = true → Parses property stream parsed rest)
  | .additive tree => ∀ {stream rest}, stream.Takes tokens rest → rest.grip ≤ 2 →
      ∃ parsed, parsed.erase = tree ∧ ∀ {result final},
        Parses (moreOperations · .lowest parsed) rest result final →
        Parses (operations · .lowest) stream result final
  | .multiplicative tree => ∀ {stream rest}, stream.Takes tokens rest → rest.grip ≤ 3 →
      ∃ parsed, parsed.erase = tree ∧ ∀ {floor result final}, floor.rank ≤ 1 →
        Parses (moreOperations · floor parsed) rest result final →
        Parses (operations · floor) stream result final
  | .callMember tree => ∀ {stream rest}, stream.Takes tokens rest → rest.grip ≤ 4 →
      ∃ parsed, parsed.erase = tree ∧ ∀ {result final},
        Parses (moreCalls · parsed) rest result final → Parses calls stream result final
  | .arguments trees => ∀ {stream rest}, stream.Takes tokens rest →
      rest.isAt .rightParen = true →
      ∃ parsed, parsed.map Expr.erase = trees ∧ Parses arguments stream parsed rest
  | .member tree => ∀ {stream rest}, stream.Takes tokens rest →
      ∃ parsed, parsed.erase = tree ∧ ∀ {result final},
        Parses (moreMembers · parsed) rest result final → Parses members stream result final
  | .primary tree => ∀ {stream rest}, stream.Takes tokens rest →
      ∃ parsed, parsed.erase = tree ∧ Parses primary stream parsed rest

variable {tokens inner others : List Token} {left right tree : Expr}

private theorem recognised_plain (target : Recognised tokens (.assignee tree)) :
    Recognised tokens (.expression tree) := by
  intro stream rest taken loose
  obtain ⟨parsed,erased,ok⟩ := target taken (by omega)
  exact ⟨parsed,erased,parses_target ok (isAt_of_grip_lt (by simp [loose,Token.grip]))⟩

private theorem recognised_assign (target : Recognised tokens (.assignee left))
    (value : Recognised others (.expression right)) :
    Recognised (tokens ++ .equals :: others) (.expression (.assign left right Span.empty)) := by
  intro stream rest taken loose
  obtain ⟨middle,before,after⟩ := taken.split
  obtain ⟨span,found,after⟩ := after.uncons
  obtain ⟨first,rfl,ok⟩ := target before (by simp [grip_of_current found,Token.grip])
  obtain ⟨second,rfl,ok'⟩ := value after loose
  exact ⟨_,Expr.erase_assign,parses_assign ok (isAt_iff.mpr ⟨span,found⟩) ok'⟩

private theorem recognised_object {content : List Property}
    (inside : Recognised tokens (.properties content)) :
    Recognised (.leftBrace :: tokens ++ [.rightBrace])
      (.assignee (.object content Span.empty)) := by
  intro stream rest taken _
  obtain ⟨opening,found,taken⟩ := taken.uncons
  obtain ⟨middle,within,ended⟩ := taken.split
  obtain ⟨closing,closed,ended⟩ := ended.uncons
  obtain rfl := ended.nil
  obtain ⟨parsed,rfl,ok⟩ := inside within (isAt_iff.mpr ⟨closing,closed⟩)
  exact ⟨_,Expr.erase_object,parses_braced (isAt_iff.mpr ⟨opening,found⟩)
    (parses_object found ok closed)⟩

private theorem recognised_operations (derived : Derives tokens (.additive tree))
    (sum : Recognised tokens (.additive tree)) : Recognised tokens (.assignee tree) := by
  intro stream rest taken loose
  obtain ⟨parsed,erased,onward⟩ := sum taken (by omega)
  have ok := onward (parses_noOperation (Nat.le_trans rank_le_of_grip (by omega)))
  refine ⟨parsed,erased,parses_operations ?_ ok⟩
  -- An operand never begins with a brace.
  obtain ⟨first,more,rfl⟩ := List.exists_cons_of_ne_nil (derived.ne_nil (by simp))
  have opened := derived.opens first rfl
  obtain ⟨span,found,_⟩ := taken.uncons
  rw [isAt_of_current found]
  cases first <;> simp_all [Phrase.opens,opensOperand]

private theorem recognised_noProperties : Recognised [] (.properties []) := by
  intro stream rest taken brace
  obtain rfl := taken.nil
  exact ⟨[],rfl,parses_noProperties brace⟩

private theorem key_of_takes {property : Property} (derived : Derives tokens (.property property))
    (taken : stream.Takes tokens rest) :
    ∃ name span, stream.current = some ⟨.ident name,span⟩ := by
  obtain ⟨first,more,rfl⟩ := List.exists_cons_of_ne_nil (derived.ne_nil (by simp))
  have opened := derived.opens first rfl
  obtain ⟨span,found,_⟩ := taken.uncons
  cases first with
  | ident name => exact ⟨name,span,found⟩
  | _ => simp [Phrase.opens] at opened

private theorem recognised_lastProperty {property : Property}
    (derived : Derives tokens (.property property))
    (last : Recognised tokens (.property property)) :
    Recognised tokens (.properties [property]) := by
  intro stream rest taken brace
  obtain ⟨closing,closed⟩ := isAt_iff.mp brace
  obtain ⟨parsed,rfl,_,ok⟩ := last taken (by simp [grip_of_current closed,Token.grip])
  obtain ⟨name,span,named⟩ := key_of_takes derived taken
  exact ⟨[parsed],rfl,parses_moreProperties named (ok brace) (parses_noProperties brace)⟩

private theorem recognised_moreProperties {property : Property} {properties : List Property}
    (derived : Derives tokens (.property property))
    (first : Recognised tokens (.property property))
    (more : Recognised others (.properties properties)) :
    Recognised (tokens ++ .comma :: others) (.properties (property :: properties)) := by
  intro stream rest taken brace
  obtain ⟨middle,before,after⟩ := taken.split
  obtain ⟨span,comma,after⟩ := after.uncons
  obtain ⟨head,rfl,ok,_⟩ := first before (by simp [grip_of_current comma,Token.grip])
  obtain ⟨tail,rfl,ok'⟩ := more after brace
  obtain ⟨name,place,named⟩ := key_of_takes derived before
  exact ⟨head :: tail,rfl,parses_moreProperties named (ok (isAt_iff.mpr ⟨span,comma⟩)) ok'⟩

private theorem recognised_shorthand {key : String} :
    Recognised [.ident key] (.property (.shorthand key Span.empty)) := by
  intro stream rest taken _
  obtain ⟨span,named,taken⟩ := taken.uncons
  obtain rfl := taken.nil
  exact ⟨_,Property.erase_shorthand,parses_shorthand named⟩

private theorem recognised_valued {key : String} (inside : Recognised tokens (.expression tree)) :
    Recognised (.ident key :: .colon :: tokens)
      (.property (.valued key tree Span.empty)) := by
  intro stream rest taken loose
  obtain ⟨span,named,taken⟩ := taken.uncons
  obtain ⟨place,colon,taken⟩ := taken.uncons
  obtain ⟨parsed,rfl,ok⟩ := inside taken loose
  exact ⟨_,Property.erase_valued,parses_valued named colon ok⟩

private theorem recognised_product (single : Recognised tokens (.multiplicative tree)) :
    Recognised tokens (.additive tree) := by
  intro stream rest taken loose
  obtain ⟨parsed,erased,onward⟩ := single taken (by omega)
  exact ⟨parsed,erased,onward (by simp [Precedence.rank])⟩

private theorem recognised_sum {sign : Operator} (additive : sign.isAdditive = true)
    (before : Recognised tokens (.additive left))
    (after : Recognised others (.multiplicative right)) :
    Recognised (tokens ++ .operator sign :: others)
      (.additive (.binary sign left right Span.empty)) := by
  intro stream rest taken loose
  obtain ⟨middle,takenBefore,taken⟩ := taken.split
  obtain ⟨span,found,taken⟩ := taken.uncons
  have strength : middle.precedence = .sum := by
    simp [precedence_of_current found,Precedence.ofToken,additive]
  obtain ⟨first,rfl,onward⟩ :=
    before takenBefore (by simp [grip_of_current found,Token.grip,additive])
  obtain ⟨second,rfl,operand⟩ := after taken (by omega)
  refine ⟨_,Expr.erase_binary,fun more => onward (parses_operation found ?_ ?_ more)⟩
  · simp [strength,Precedence.rank]
  · have stops : rest.precedence.rank ≤ Precedence.sum.rank :=
      Nat.le_trans rank_le_of_grip (by simp only [Precedence.rank]; omega)
    rw [strength]
    exact operand (by simp [Precedence.rank]) (parses_noOperation stops)

private theorem recognised_factor (single : Recognised tokens (.callMember tree)) :
    Recognised tokens (.multiplicative tree) := by
  intro stream rest taken loose
  obtain ⟨parsed,erased,onward⟩ := single taken (by omega)
  have free : rest.isAt .leftParen = false := isAt_of_grip_lt (by simp only [Token.grip]; omega)
  exact ⟨parsed,erased,fun _ more => parses_firstOperand (onward (parses_noCall free)) more⟩

private theorem recognised_times {sign : Operator} (multiplicative : sign.isMultiplicative = true)
    (before : Recognised tokens (.multiplicative left))
    (after : Recognised others (.callMember right)) :
    Recognised (tokens ++ .operator sign :: others)
      (.multiplicative (.binary sign left right Span.empty)) := by
  intro stream rest taken loose
  obtain ⟨middle,takenBefore,taken⟩ := taken.split
  obtain ⟨span,found,taken⟩ := taken.uncons
  have other : sign.isAdditive = false := by simpa [Operator.isMultiplicative] using multiplicative
  have strength : middle.precedence = .product := by
    simp [precedence_of_current found,Precedence.ofToken,other]
  obtain ⟨first,rfl,onward⟩ :=
    before takenBefore (by simp [grip_of_current found,Token.grip,other])
  obtain ⟨second,rfl,operand⟩ := after taken (by omega)
  refine ⟨_,Expr.erase_binary,fun low more => onward low (parses_operation found ?_ ?_ more)⟩
  · rw [strength]
    exact Nat.lt_of_le_of_lt low (by decide)
  · have free : rest.isAt .leftParen = false := isAt_of_grip_lt (by simp only [Token.grip]; omega)
    have stops : rest.precedence.rank ≤ Precedence.product.rank :=
      Nat.le_trans rank_le_of_grip (by simp only [Precedence.rank]; omega)
    rw [strength]
    exact parses_firstOperand (operand (parses_noCall free)) (parses_noOperation stops)

private theorem recognised_noCall (single : Recognised tokens (.member tree)) :
    Recognised tokens (.callMember tree) := by
  intro stream rest taken loose
  obtain ⟨parsed,erased,onward⟩ := single taken
  have noName : rest.isAt .dot = false := isAt_of_grip_lt (by simp only [Token.grip]; omega)
  have noKey : rest.isAt .leftBracket = false :=
    isAt_of_grip_lt (by simp only [Token.grip]; omega)
  exact ⟨parsed,erased,parses_callee (onward (parses_noMember noName noKey))⟩

private theorem recognised_called {given : List Expr}
    (called : Recognised tokens (.callMember left))
    (inside : ∀ {stream rest}, stream.Takes inner rest → rest.isAt .rightParen = true →
      ∃ parsed, parsed.map Expr.erase = given ∧ ParsesGiven stream parsed rest) :
    Recognised (tokens ++ .leftParen :: inner ++ [.rightParen])
      (.callMember (.call left given Span.empty)) := by
  intro stream rest taken _
  rw [List.append_assoc] at taken
  obtain ⟨early,before,taken⟩ := taken.split
  obtain ⟨opening,found,taken⟩ := taken.uncons
  obtain ⟨middle,within,ended⟩ := taken.split
  obtain ⟨closing,closed,ended⟩ := ended.uncons
  obtain rfl := ended.nil
  obtain ⟨callee,rfl,onward⟩ := called before (by simp [grip_of_current found,Token.grip])
  obtain ⟨parsed,rfl,ok⟩ := inside within (isAt_iff.mpr ⟨closing,closed⟩)
  exact ⟨_,Expr.erase_call,fun more => onward (parses_call found ok closed more)⟩

private theorem recognised_emptyCall (called : Recognised tokens (.callMember left)) :
    Recognised (tokens ++ [.leftParen,.rightParen]) (.callMember (.call left [] Span.empty)) := by
  have empty : Recognised (tokens ++ .leftParen :: [] ++ [.rightParen])
      (.callMember (.call left [] Span.empty)) := by
    apply recognised_called called
    intro stream rest taken closed
    obtain rfl := taken.nil
    exact ⟨[],rfl,.inl ⟨closed,rfl,rfl⟩⟩
  rwa [List.append_assoc] at empty

private theorem recognised_call {given : List Expr} (derived : Derives inner (.arguments given))
    (called : Recognised tokens (.callMember left)) (inside : Recognised inner (.arguments given)) :
    Recognised (tokens ++ .leftParen :: inner ++ [.rightParen])
      (.callMember (.call left given Span.empty)) := by
  apply recognised_called called
  intro stream rest taken closed
  obtain ⟨parsed,erased,ok⟩ := inside taken closed
  refine ⟨parsed,erased,.inr ⟨?_,ok⟩⟩
  -- The first argument does not begin with the parenthesis that closes the call.
  obtain ⟨first,more,rfl⟩ := List.exists_cons_of_ne_nil (derived.ne_nil (by simp))
  have opened := derived.opens first rfl
  obtain ⟨span,found,_⟩ := taken.uncons
  rw [isAt_of_current found]
  cases first <;> simp_all [Phrase.opens,opensExpression,opensOperand]

private theorem recognised_lastArgument (last : Recognised tokens (.expression tree)) :
    Recognised tokens (.arguments [tree]) := by
  intro stream rest taken closed
  obtain ⟨closing,found⟩ := isAt_iff.mp closed
  obtain ⟨parsed,rfl,ok⟩ := last taken (by simp [grip_of_current found,Token.grip])
  exact ⟨[parsed],rfl,parses_lastArgument ok (by simp [isAt_of_current found])⟩

private theorem recognised_moreArguments {trees : List Expr}
    (first : Recognised tokens (.expression tree))
    (more : Recognised others (.arguments trees)) :
    Recognised (tokens ++ .comma :: others) (.arguments (tree :: trees)) := by
  intro stream rest taken closed
  obtain ⟨middle,before,after⟩ := taken.split
  obtain ⟨span,comma,after⟩ := after.uncons
  obtain ⟨head,rfl,ok⟩ := first before (by simp [grip_of_current comma,Token.grip])
  obtain ⟨tail,rfl,ok'⟩ := more after closed
  exact ⟨head :: tail,rfl,parses_moreArguments ok (isAt_iff.mpr ⟨span,comma⟩) ok'⟩

private theorem recognised_noMember (single : Recognised tokens (.primary tree)) :
    Recognised tokens (.member tree) := by
  intro stream rest taken
  obtain ⟨parsed,erased,ok⟩ := single taken
  exact ⟨parsed,erased,parses_holder ok⟩

private theorem recognised_named {name : String} (held : Recognised tokens (.member left)) :
    Recognised (tokens ++ [.dot,.ident name])
      (.member (.member left ⟨name,Span.empty⟩ Span.empty)) := by
  intro stream rest taken
  obtain ⟨middle,before,after⟩ := taken.split
  obtain ⟨place,found,after⟩ := after.uncons
  obtain ⟨span,named,after⟩ := after.uncons
  obtain rfl := after.nil
  obtain ⟨holder,rfl,onward⟩ := held before
  exact ⟨_,Expr.erase_member,fun more => onward (parses_named found named more)⟩

private theorem recognised_computed (held : Recognised tokens (.member left))
    (inside : Recognised inner (.expression right)) :
    Recognised (tokens ++ .leftBracket :: inner ++ [.rightBracket])
      (.member (.index left right Span.empty)) := by
  intro stream rest taken
  rw [List.append_assoc] at taken
  obtain ⟨early,before,taken⟩ := taken.split
  obtain ⟨place,found,taken⟩ := taken.uncons
  obtain ⟨middle,within,ended⟩ := taken.split
  obtain ⟨closing,closed,ended⟩ := ended.uncons
  obtain rfl := ended.nil
  obtain ⟨holder,rfl,onward⟩ := held before
  obtain ⟨key,rfl,ok⟩ := inside within (by simp [grip_of_current closed,Token.grip])
  exact ⟨_,Expr.erase_index,fun more => onward (parses_computed found ok closed more)⟩

private theorem recognised_identifier {name : String} :
    Recognised [.ident name] (.primary (.identifier ⟨name,Span.empty⟩)) := by
  intro stream rest taken
  obtain ⟨span,found,taken⟩ := taken.uncons
  obtain rfl := taken.nil
  exact ⟨_,Expr.erase_identifier,parses_identifier found⟩

private theorem recognised_number {digits : String} {value : Float}
    (read : Number.read? digits = some value) :
    Recognised [.number digits] (.primary (.number value Span.empty)) := by
  intro stream rest taken
  obtain ⟨span,found,taken⟩ := taken.uncons
  obtain rfl := taken.nil
  exact ⟨_,Expr.erase_number,parses_number found read⟩

private theorem recognised_parentheses (inside : Recognised tokens (.expression tree)) :
    Recognised (.leftParen :: tokens ++ [.rightParen]) (.primary tree) := by
  intro stream rest taken
  obtain ⟨opening,found,taken⟩ := taken.uncons
  obtain ⟨middle,within,ended⟩ := taken.split
  obtain ⟨closing,closed,ended⟩ := ended.uncons
  obtain rfl := ended.nil
  obtain ⟨parsed,erased,ok⟩ := inside within (by simp [grip_of_current closed,Token.grip])
  exact ⟨parsed,erased,parses_parentheses found ok closed⟩

/-- Every phrase of the grammar is recognised. -/
theorem recognised {phrase : Phrase} (derived : Derives tokens phrase) :
    Recognised tokens phrase := by
  induction derived with
  | plain _ ih => exact recognised_plain ih
  | assign _ _ target value => exact recognised_assign target value
  | object _ ih => exact recognised_object ih
  | operations sum ih => exact recognised_operations sum ih
  | noProperties => exact recognised_noProperties
  | lastProperty last ih => exact recognised_lastProperty last ih
  | moreProperties first _ head tail => exact recognised_moreProperties first head tail
  | shorthand => exact recognised_shorthand
  | valued _ ih => exact recognised_valued ih
  | product _ ih => exact recognised_product ih
  | sum additive _ _ before after => exact recognised_sum additive before after
  | factor _ ih => exact recognised_factor ih
  | times multiplicative _ _ before after => exact recognised_times multiplicative before after
  | noCall _ ih => exact recognised_noCall ih
  | emptyCall _ ih => exact recognised_emptyCall ih
  | call _ inside called given => exact recognised_call inside called given
  | lastArgument _ ih => exact recognised_lastArgument ih
  | moreArguments _ _ head tail => exact recognised_moreArguments head tail
  | noMember _ ih => exact recognised_noMember ih
  | named _ ih => exact recognised_named ih
  | computed _ _ held inside => exact recognised_computed held inside
  | identifier => exact recognised_identifier
  | number read => exact recognised_number read
  | parentheses _ ih => exact recognised_parentheses ih

end Parser
end Scriptlet
