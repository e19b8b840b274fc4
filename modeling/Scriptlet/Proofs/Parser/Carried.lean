import Scriptlet.Proofs.Parser.Language
import Scriptlet.Proofs.Parser.Seam

/-! One parse in two places. Where a parser succeeds and stops at a seam or before it, it
succeeds in the same way on the other side. Behind the seam another token may stand, as long
as it does not belong to what was parsed. -/
namespace Scriptlet.Parser
open Grammar Scriptlet.Stream

variable {α : Type} {seam : Seam} {stream other middle rest : Stream} {bound : Nat}

/-- What the first parser makes of a stream, the second makes of its partner, if the parse ends
in front of the seam or, under the given condition, at it. -/
def Carries (seam : Seam) (free : Prop) (move : α → α) (first second : Parser α) : Prop :=
  ∀ {stream other : Stream} {tree : α} {rest : Stream}, seam.Joins stream other →
    first stream = .ok tree rest → seam.Reaches free rest →
    ∃ rest', second other = .ok (move tree) rest' ∧ seam.Joins rest rest'

/-- The lists inside brackets must end alike; every other phrase may end at an open seam. -/
structure Carried (seam : Seam) (bound : Nat) : Prop where
  expression : Carries seam seam.Open (Expr.mapSpans seam.move)
    (Parser.expression bound) (Parser.expression bound)
  assignee : Carries seam seam.Open (Expr.mapSpans seam.move)
    (Parser.assignee bound) (Parser.assignee bound)
  object : Carries seam seam.Open (Expr.mapSpans seam.move)
    (Parser.object bound) (Parser.object bound)
  properties : Carries seam seam.Same (List.map (Property.mapSpans seam.move))
    (Parser.properties bound) (Parser.properties bound)
  property : Carries seam seam.Same (Property.mapSpans seam.move)
    (Parser.property bound) (Parser.property bound)
  operations : ∀ floor, Carries seam seam.Open (Expr.mapSpans seam.move)
    (Parser.operations bound floor) (Parser.operations bound floor)
  moreOperations : ∀ floor left, Carries seam seam.Open (Expr.mapSpans seam.move)
    (Parser.moreOperations bound floor left)
    (Parser.moreOperations bound floor (left.mapSpans seam.move))
  operation : ∀ left, Carries seam seam.Open (Expr.mapSpans seam.move)
    (Parser.operation bound left) (Parser.operation bound (left.mapSpans seam.move))
  calls : Carries seam seam.Open (Expr.mapSpans seam.move)
    (Parser.calls bound) (Parser.calls bound)
  moreCalls : ∀ callee, Carries seam seam.Open (Expr.mapSpans seam.move)
    (Parser.moreCalls bound callee) (Parser.moreCalls bound (callee.mapSpans seam.move))
  call : ∀ callee, Carries seam seam.Open (Expr.mapSpans seam.move)
    (Parser.call bound callee) (Parser.call bound (callee.mapSpans seam.move))
  arguments : Carries seam seam.Same (List.map (Expr.mapSpans seam.move))
    (Parser.arguments bound) (Parser.arguments bound)
  members : Carries seam seam.Open (Expr.mapSpans seam.move)
    (Parser.members bound) (Parser.members bound)
  moreMembers : ∀ object, Carries seam seam.Open (Expr.mapSpans seam.move)
    (Parser.moreMembers bound object) (Parser.moreMembers bound (object.mapSpans seam.move))
  member : ∀ object, Carries seam seam.Open (Expr.mapSpans seam.move)
    (Parser.member bound object) (Parser.member bound (object.mapSpans seam.move))
  primary : Carries seam seam.Open (Expr.mapSpans seam.move)
    (Parser.primary bound) (Parser.primary bound)

private theorem carried_zero : Carried seam 0 := by
  constructor <;> intros <;> intro stream other tree rest _ ok <;>
    simp [expression,assignee,object,properties,property,operations,moreOperations,operation,
      calls,moreCalls,call,arguments,members,moreMembers,member,primary,failAtEnd_run] at ok

/-! The rules that extend a phrase begin with a token of their own. -/

theorem operation_takes {left tree : Expr} (steady : stream.Steady)
    (ok : operation bound left stream = .ok tree rest) :
    ∃ token tokens, stream.Takes (token :: tokens) rest := by
  cases bound with
  | zero => simp [operation,failAtEnd_run] at ok
  | succ bound =>
    obtain ⟨sign,span,right,found,operand,_⟩ := operation_ok.mp ok
    have signed := Takes.one steady found (by simp)
    obtain ⟨⟨_,taken,_⟩,_⟩ := (sound bound).operations signed.steady operand
    exact ⟨_,_,signed.trans taken⟩

theorem call_takes {left tree : Expr} (steady : stream.Steady)
    (ok : call bound left stream = .ok tree rest) :
    ∃ token tokens, stream.Takes (token :: tokens) rest := by
  cases bound with
  | zero => simp [call,failAtEnd_run] at ok
  | succ bound =>
    obtain ⟨opening,given,middle,closing,found,within,closed,rfl,_⟩ := call_ok.mp ok
    have opened := Takes.one steady found (by simp)
    rcases within with ⟨_,_,rfl⟩ | ⟨_,within⟩
    · exact ⟨_,_,opened.trans (.one opened.steady closed (by simp))⟩
    · obtain ⟨_,taken,_⟩ := (sound bound).arguments opened.steady within
      exact ⟨_,_,opened.trans (taken.trans (.one taken.steady closed (by simp)))⟩

theorem member_takes {left tree : Expr} (steady : stream.Steady)
    (ok : member bound left stream = .ok tree rest) :
    ∃ token tokens, stream.Takes (token :: tokens) rest := by
  cases bound with
  | zero => simp [member,failAtEnd_run] at ok
  | succ bound =>
    rcases member_ok.mp ok with ⟨_,_,_,found,named,rfl,_⟩ |
      ⟨_,_,middle,_,found,within,closed,rfl,_⟩
    · have dotted := Takes.one steady found (by simp)
      exact ⟨_,_,dotted.trans (.one dotted.steady named (by simp))⟩
    · have opened := Takes.one steady found (by simp)
      obtain ⟨_,taken,_⟩ := (sound bound).expression opened.steady within
      exact ⟨_,_,opened.trans (taken.trans (.one taken.steady closed (by simp)))⟩

private theorem moreOperations_takes {floor : Precedence} {left tree : Expr}
    (steady : stream.Steady)
    (ok : moreOperations bound floor left stream = .ok tree rest) :
    ∃ tokens, stream.Takes tokens rest := by
  cases floor with
  | lowest =>
    obtain ⟨⟨_,taken,_⟩,_⟩ := (sound bound).sums steady ok
    exact ⟨_,taken⟩
  | sum =>
    obtain ⟨⟨_,taken,_⟩,_⟩ := (sound bound).products steady ok
    exact ⟨_,taken⟩
  | product =>
    obtain ⟨_,rfl,_⟩ := moreOperations_product ok
    exact ⟨_,.refl steady⟩

section
variable (carried : Carried seam bound)
include carried

private theorem expression_carried : Carries seam seam.Open (Expr.mapSpans seam.move)
    (expression (bound + 1)) (expression (bound + 1)) := by
  intro stream other tree rest joined ok reached
  obtain ⟨target,middle,first,alone | assigned⟩ := expression_ok.mp ok
  · obtain ⟨free,rfl,rfl⟩ := alone
    obtain ⟨rest',first',joined'⟩ := carried.assignee joined first reached
    have free' := joined'.isAt_free reached free (by simp [Token.grip])
    exact ⟨rest',expression_ok.mpr ⟨_,_,first',.inl ⟨free',rfl,rfl⟩⟩,joined'⟩
  · obtain ⟨equals,value,second,rfl⟩ := assigned
    obtain ⟨_,found⟩ := isAt_iff.mp equals
    have middleSteady := ((sound bound).assignee joined.steady first).steady
    have stepped := Takes.one middleSteady found (by simp)
    obtain ⟨_,taken,_⟩ := (sound bound).expression stepped.steady second
    have inside := reached.inside (stepped.trans taken)
    obtain ⟨_,first',joined'⟩ := carried.assignee joined first inside.reaches
    obtain ⟨found',joined'⟩ := joined'.take inside found (by simp)
    obtain ⟨rest',second',joined'⟩ := carried.expression joined' second reached
    refine ⟨rest',expression_ok.mpr
      ⟨_,_,first',.inr ⟨isAt_iff.mpr ⟨_,found'⟩,_,second',?_⟩⟩,joined'⟩
    simp [Expr.mapSpans,Seam.move,Span.push_merge]

private theorem assignee_carried : Carries seam seam.Open (Expr.mapSpans seam.move)
    (assignee (bound + 1)) (assignee (bound + 1)) := by
  intro stream other tree rest joined ok reached
  obtain ⟨tokens,taken,derived⟩ := (sound (bound + 1)).assignee joined.steady ok
  obtain ⟨token,tokens,rfl⟩ := List.exists_cons_of_ne_nil (derived.ne_nil (by simp))
  have alike := joined.isAt_eq (reached.inside taken).reaches .leftBrace
  rw [assignee_run] at ok ⊢
  rw [alike]
  split at ok
  · next brace =>
    rw [if_pos brace]
    exact carried.object joined ok reached
  · next plain =>
    rw [if_neg plain]
    exact carried.operations .lowest joined ok reached

private theorem object_carried : Carries seam seam.Open (Expr.mapSpans seam.move)
    (object (bound + 1)) (object (bound + 1)) := by
  intro stream other tree rest joined ok reached
  obtain ⟨opening,content,middle,closing,found,within,closed,rfl,rfl⟩ := object_ok.mp ok
  have opened := Takes.one joined.steady found (by simp)
  obtain ⟨_,taken,_⟩ := (sound bound).properties opened.steady within
  have ended := reached.inside (.one taken.steady closed (by simp))
  have inside := ended.back (opened.trans taken)
  obtain ⟨found',joined'⟩ := joined.take inside found (by simp)
  obtain ⟨_,within',joined'⟩ := carried.properties joined' within ended.reaches
  obtain ⟨closed',joined'⟩ := joined'.take ended closed (by simp)
  refine ⟨_,object_ok.mpr ⟨_,_,_,_,found',within',closed',rfl,?_⟩,joined'⟩
  rw [Expr.mapSpans,mapPropertySpans_eq_map]
  rfl

private theorem properties_carried : Carries seam seam.Same (List.map (Property.mapSpans seam.move))
    (properties (bound + 1)) (properties (bound + 1)) := by
  intro stream other trees rest joined ok reached
  rcases properties_ok.mp ok with ⟨ended,rfl,rfl⟩ | ⟨more,opened,first,middle,others,head,tail,rfl⟩
  · rw [← joined.notEof_eq reached,← joined.isAt_eq reached] at ended
    exact ⟨other,properties_ok.mpr (.inl ⟨ended,rfl,rfl⟩),joined⟩
  · obtain ⟨_,taken⟩ : ∃ tokens, stream.Takes tokens middle := by
      obtain ⟨_,_,taken | ⟨taken,_⟩⟩ := (sound bound).property joined.steady head
      · exact ⟨_,taken⟩
      · exact ⟨_,taken⟩
    obtain ⟨_,takenAfter,_⟩ := (sound bound).properties taken.steady tail
    have later := reached.back takenAfter
    have here := later.back taken
    rw [← joined.notEof_eq here] at more
    rw [← joined.isAt_eq here] at opened
    obtain ⟨_,head',joined'⟩ := carried.property joined head later
    obtain ⟨rest',tail',joined'⟩ := carried.properties joined' tail reached
    exact ⟨rest',properties_ok.mpr (.inr ⟨more,opened,_,_,_,head',tail',rfl⟩),joined'⟩

private theorem property_carried : Carries seam seam.Same (Property.mapSpans seam.move)
    (property (bound + 1)) (property (bound + 1)) := by
  intro stream other tree rest joined ok reached
  obtain ⟨name,span,found,short | short | valued⟩ := property_ok.mp ok
  all_goals have named := Takes.one joined.steady found (by simp)
  · obtain ⟨comma,rfl,rfl⟩ := short
    obtain ⟨_,after⟩ := isAt_iff.mp comma
    have inside := reached.inside (.one named.steady after (by simp))
    obtain ⟨found',joined'⟩ := joined.take (inside.back named) found (by simp)
    obtain ⟨after',joined''⟩ := joined'.take inside after (by simp)
    refine ⟨_,property_ok.mpr ⟨name,_,found',.inl ⟨isAt_iff.mpr ⟨_,after'⟩,?_,rfl⟩⟩,joined''⟩
    simp [Property.mapSpans]
  · obtain ⟨brace,rfl,rfl⟩ := short
    obtain ⟨found',joined'⟩ := joined.take (reached.inside named) found (by simp)
    rw [← joined'.isAt_eq reached] at brace
    refine ⟨_,property_ok.mpr ⟨name,_,found',.inr (.inl ⟨brace,?_,rfl⟩)⟩,joined'⟩
    simp [Property.mapSpans]
  · obtain ⟨place,value,middle,colon,within,rfl,ending⟩ := valued
    have marked := Takes.one named.steady colon (by simp)
    obtain ⟨_,taken,_⟩ := (sound bound).expression marked.steady within
    have later : seam.Reaches seam.Same middle := by
      rcases ending with ⟨_,rfl⟩ | ⟨comma,rfl⟩
      · exact reached
      · obtain ⟨_,after⟩ := isAt_iff.mp comma
        exact reached.back (.one taken.steady after (by simp))
    have inside := later.inside (marked.trans taken)
    obtain ⟨found',joined'⟩ := joined.take (inside.back named) found (by simp)
    obtain ⟨colon',joined'⟩ := joined'.take inside colon (by simp)
    obtain ⟨middle',within',joined'⟩ := carried.expression joined' within (later.mono .inl)
    have built : (Property.valued name value ⟨span.start,value.span.stop⟩).mapSpans seam.move =
        .valued name (value.mapSpans seam.move)
          ⟨(seam.move span).start,(value.mapSpans seam.move).span.stop⟩ := by
      simp [Property.mapSpans,Seam.move,Span.push]
    rcases ending with ⟨brace,rfl⟩ | ⟨comma,rfl⟩
    · rw [← joined'.isAt_eq later] at brace
      exact ⟨middle',property_ok.mpr ⟨name,_,found',.inr (.inr
        ⟨_,_,_,colon',within',built,.inl ⟨brace,rfl⟩⟩)⟩,joined'⟩
    · obtain ⟨_,after⟩ := isAt_iff.mp comma
      have last := reached.inside (.one taken.steady after (by simp))
      obtain ⟨after',joined'⟩ := joined'.take last after (by simp)
      exact ⟨middle'.step,property_ok.mpr ⟨name,_,found',.inr (.inr
        ⟨_,_,_,colon',within',built,.inr ⟨isAt_iff.mpr ⟨_,after'⟩,rfl⟩⟩)⟩,joined'⟩

private theorem operations_carried (floor : Precedence) :
    Carries seam seam.Open (Expr.mapSpans seam.move)
      (operations (bound + 1) floor) (operations (bound + 1) floor) := by
  intro stream other tree rest joined ok reached
  obtain ⟨left,middle,first,more⟩ := operations_ok.mp ok
  have steady := ((sound bound).calls joined.steady first).steady
  obtain ⟨_,taken⟩ := moreOperations_takes steady more
  obtain ⟨_,first',joined'⟩ := carried.calls joined first (reached.back taken)
  obtain ⟨rest',more',joined'⟩ := carried.moreOperations floor left joined' more reached
  exact ⟨rest',operations_ok.mpr ⟨_,_,first',more'⟩,joined'⟩

private theorem moreOperations_carried (floor : Precedence) (left : Expr) :
    Carries seam seam.Open (Expr.mapSpans seam.move) (moreOperations (bound + 1) floor left)
      (moreOperations (bound + 1) floor (left.mapSpans seam.move)) := by
  intro stream other tree rest joined ok reached
  rcases moreOperations_ok.mp ok with ⟨looser,rfl,rfl⟩ | ⟨tighter,whole,middle,first,more⟩
  · exact ⟨other,moreOperations_ok.mpr (.inl ⟨joined.precedence_free reached looser,rfl,rfl⟩),
      joined⟩
  · obtain ⟨_,_,taken⟩ := operation_takes joined.steady first
    obtain ⟨_,takenAfter⟩ := moreOperations_takes taken.steady more
    have later := reached.back takenAfter
    rw [← joined.precedence_eq (later.inside taken).reaches] at tighter
    obtain ⟨_,first',joined'⟩ := carried.operation left joined first later
    obtain ⟨rest',more',joined'⟩ := carried.moreOperations floor whole joined' more reached
    exact ⟨rest',moreOperations_ok.mpr (.inr ⟨tighter,_,_,first',more'⟩),joined'⟩

private theorem operation_carried (left : Expr) :
    Carries seam seam.Open (Expr.mapSpans seam.move) (operation (bound + 1) left)
      (operation (bound + 1) (left.mapSpans seam.move)) := by
  intro stream other tree rest joined ok reached
  obtain ⟨_,_,taken⟩ := operation_takes joined.steady ok
  have inside := reached.inside taken
  obtain ⟨sign,span,right,found,operand,rfl⟩ := operation_ok.mp ok
  obtain ⟨found',joined'⟩ := joined.take inside found (by simp)
  rw [← joined.precedence_eq inside.reaches] at operand
  obtain ⟨rest',operand',joined'⟩ := carried.operations _ joined' operand reached
  refine ⟨rest',operation_ok.mpr ⟨sign,_,_,found',operand',?_⟩,joined'⟩
  simp [Expr.mapSpans,Seam.move,Span.push_merge]

private theorem calls_carried : Carries seam seam.Open (Expr.mapSpans seam.move)
    (calls (bound + 1)) (calls (bound + 1)) := by
  intro stream other tree rest joined ok reached
  obtain ⟨callee,middle,first,more⟩ := calls_ok.mp ok
  have steady := ((sound bound).members joined.steady first).steady
  obtain ⟨_,taken,_⟩ := (sound bound).moreCalls steady more
  obtain ⟨_,first',joined'⟩ := carried.members joined first (reached.back taken)
  obtain ⟨rest',more',joined'⟩ := carried.moreCalls callee joined' more reached
  exact ⟨rest',calls_ok.mpr ⟨_,_,first',more'⟩,joined'⟩

private theorem moreCalls_carried (callee : Expr) :
    Carries seam seam.Open (Expr.mapSpans seam.move) (moreCalls (bound + 1) callee)
      (moreCalls (bound + 1) (callee.mapSpans seam.move)) := by
  intro stream other tree rest joined ok reached
  rcases moreCalls_ok.mp ok with ⟨free,rfl,rfl⟩ | ⟨called,whole,middle,first,more⟩
  · have free' := joined.isAt_free reached free (by simp [Token.grip])
    exact ⟨other,moreCalls_ok.mpr (.inl ⟨free',rfl,rfl⟩),joined⟩
  · obtain ⟨_,_,taken⟩ := call_takes joined.steady first
    obtain ⟨_,takenAfter,_⟩ := (sound bound).moreCalls taken.steady more
    have later := reached.back takenAfter
    rw [← joined.isAt_eq (later.inside taken).reaches] at called
    obtain ⟨_,first',joined'⟩ := carried.call callee joined first later
    obtain ⟨rest',more',joined'⟩ := carried.moreCalls whole joined' more reached
    exact ⟨rest',moreCalls_ok.mpr (.inr ⟨called,_,_,first',more'⟩),joined'⟩

private theorem call_carried (callee : Expr) :
    Carries seam seam.Open (Expr.mapSpans seam.move) (call (bound + 1) callee)
      (call (bound + 1) (callee.mapSpans seam.move)) := by
  intro stream other tree rest joined ok reached
  obtain ⟨opening,given,middle,closing,found,within,closed,rfl,rfl⟩ := call_ok.mp ok
  have opened := Takes.one joined.steady found (by simp)
  obtain ⟨_,taken⟩ : ∃ tokens, stream.step.Takes tokens middle := by
    rcases within with ⟨_,_,rfl⟩ | ⟨_,within⟩
    · exact ⟨_,.refl opened.steady⟩
    · obtain ⟨_,taken,_⟩ := (sound bound).arguments opened.steady within
      exact ⟨_,taken⟩
  have ended := reached.inside (.one taken.steady closed (by simp))
  have begun : seam.Reaches seam.Same stream.step := ended.reaches.back taken
  obtain ⟨found',joined'⟩ := joined.take (begun.inside opened) found (by simp)
  rw [← joined'.isAt_eq begun] at within
  obtain ⟨middle',within',joined'⟩ : ∃ middle',
      ((other.step.isAt .rightParen = true ∧ given.map (Expr.mapSpans seam.move) = [] ∧
          other.step = middle') ∨
        (other.step.isAt .rightParen = false ∧ arguments bound other.step =
          .ok (given.map (Expr.mapSpans seam.move)) middle')) ∧ seam.Joins middle middle' := by
    rcases within with ⟨empty,rfl,rfl⟩ | ⟨some,within⟩
    · exact ⟨_,.inl ⟨empty,rfl,rfl⟩,joined'⟩
    · obtain ⟨middle',within',joined'⟩ := carried.arguments joined' within ended.reaches
      exact ⟨middle',.inr ⟨some,within'⟩,joined'⟩
  obtain ⟨closed',joined'⟩ := joined'.take ended closed (by simp)
  refine ⟨_,call_ok.mpr ⟨_,_,_,_,found',within',closed',rfl,?_⟩,joined'⟩
  rw [Expr.mapSpans,mapArgumentSpans_eq_map,Expr.mapSpans_span]
  rfl

private theorem arguments_carried : Carries seam seam.Same (List.map (Expr.mapSpans seam.move))
    (arguments (bound + 1)) (arguments (bound + 1)) := by
  intro stream other trees rest joined ok reached
  obtain ⟨first,middle,head,alone | more⟩ := arguments_ok.mp ok
  · obtain ⟨free,rfl,rfl⟩ := alone
    obtain ⟨rest',head',joined'⟩ := carried.expression joined head (reached.mono .inl)
    rw [← joined'.isAt_eq reached] at free
    exact ⟨rest',arguments_ok.mpr ⟨_,_,head',.inl ⟨free,rfl,rfl⟩⟩,joined'⟩
  · obtain ⟨comma,others,tail,rfl⟩ := more
    obtain ⟨_,found⟩ := isAt_iff.mp comma
    have steady := ((sound bound).expression joined.steady head).steady
    have stepped := Takes.one steady found (by simp)
    obtain ⟨_,taken,_⟩ := (sound bound).arguments stepped.steady tail
    have inside := reached.inside (stepped.trans taken)
    obtain ⟨_,head',joined'⟩ := carried.expression joined head inside.reaches
    obtain ⟨found',joined'⟩ := joined'.take inside found (by simp)
    obtain ⟨rest',tail',joined'⟩ := carried.arguments joined' tail reached
    exact ⟨rest',arguments_ok.mpr
      ⟨_,_,head',.inr ⟨isAt_iff.mpr ⟨_,found'⟩,_,tail',rfl⟩⟩,joined'⟩

private theorem members_carried : Carries seam seam.Open (Expr.mapSpans seam.move)
    (members (bound + 1)) (members (bound + 1)) := by
  intro stream other tree rest joined ok reached
  obtain ⟨object,middle,first,more⟩ := members_ok.mp ok
  have steady := ((sound bound).primary joined.steady first).steady
  obtain ⟨_,taken,_⟩ := (sound bound).moreMembers steady more
  obtain ⟨_,first',joined'⟩ := carried.primary joined first (reached.back taken)
  obtain ⟨rest',more',joined'⟩ := carried.moreMembers object joined' more reached
  exact ⟨rest',members_ok.mpr ⟨_,_,first',more'⟩,joined'⟩

private theorem moreMembers_carried (object : Expr) :
    Carries seam seam.Open (Expr.mapSpans seam.move) (moreMembers (bound + 1) object)
      (moreMembers (bound + 1) (object.mapSpans seam.move)) := by
  intro stream other tree rest joined ok reached
  rcases moreMembers_ok.mp ok with ⟨free,rfl,rfl⟩ | ⟨held,whole,middle,first,more⟩
  · obtain ⟨noName,noKey⟩ := Bool.or_eq_false_iff.mp free
    have noName' := joined.isAt_free reached noName (by simp [Token.grip])
    have noKey' := joined.isAt_free reached noKey (by simp [Token.grip])
    exact ⟨other,moreMembers_ok.mpr (.inl ⟨by simp [noName',noKey'],rfl,rfl⟩),joined⟩
  · obtain ⟨_,_,taken⟩ := member_takes joined.steady first
    obtain ⟨_,takenAfter,_⟩ := (sound bound).moreMembers taken.steady more
    have later := reached.back takenAfter
    have inside := later.inside taken
    rw [← joined.isAt_eq inside.reaches,← joined.isAt_eq inside.reaches] at held
    obtain ⟨_,first',joined'⟩ := carried.member object joined first later
    obtain ⟨rest',more',joined'⟩ := carried.moreMembers whole joined' more reached
    exact ⟨rest',moreMembers_ok.mpr (.inr ⟨held,_,_,first',more'⟩),joined'⟩

private theorem member_carried (object : Expr) :
    Carries seam seam.Open (Expr.mapSpans seam.move) (member (bound + 1) object)
      (member (bound + 1) (object.mapSpans seam.move)) := by
  intro stream other tree rest joined ok reached
  rcases member_ok.mp ok with ⟨place,name,span,found,named,rfl,rfl⟩ |
    ⟨place,key,middle,closing,found,within,closed,rfl,rfl⟩
  · have dotted := Takes.one joined.steady found (by simp)
    have inside := reached.inside (.one dotted.steady named (by simp))
    obtain ⟨found',joined'⟩ := joined.take (inside.back dotted) found (by simp)
    obtain ⟨named',joined'⟩ := joined'.take inside named (by simp)
    refine ⟨_,member_ok.mpr (.inl ⟨_,name,_,found',named',rfl,?_⟩),joined'⟩
    simp [Expr.mapSpans,Identifier.mapSpans,Seam.move,Span.push]
  · have opened := Takes.one joined.steady found (by simp)
    obtain ⟨_,taken,_⟩ := (sound bound).expression opened.steady within
    have ended := reached.inside (.one taken.steady closed (by simp))
    have inside := ended.back (opened.trans taken)
    obtain ⟨found',joined'⟩ := joined.take inside found (by simp)
    obtain ⟨_,within',joined'⟩ := carried.expression joined' within ended.reaches
    obtain ⟨closed',joined'⟩ := joined'.take ended closed (by simp)
    refine ⟨_,member_ok.mpr (.inr ⟨_,_,_,_,found',within',closed',rfl,?_⟩),joined'⟩
    simp [Expr.mapSpans,Seam.move,Span.push]

private theorem primary_carried : Carries seam seam.Open (Expr.mapSpans seam.move)
    (primary (bound + 1)) (primary (bound + 1)) := by
  intro stream other tree rest joined ok reached
  rcases primary_ok.mp ok with ⟨name,span,found,rfl,rfl⟩ |
    ⟨digits,span,value,found,read,rfl,rfl⟩ | ⟨opening,middle,closing,found,within,closed,rfl⟩
  · have inside := reached.inside (.one joined.steady found (by simp))
    obtain ⟨found',joined'⟩ := joined.take inside found (by simp)
    refine ⟨_,primary_ok.mpr (.inl ⟨name,_,found',rfl,?_⟩),joined'⟩
    simp [Expr.mapSpans,Identifier.mapSpans]
  · have inside := reached.inside (.one joined.steady found (by simp))
    obtain ⟨found',joined'⟩ := joined.take inside found (by simp)
    refine ⟨_,primary_ok.mpr (.inr (.inl ⟨digits,_,value,found',read,?_,rfl⟩)),joined'⟩
    simp [Expr.mapSpans]
  · have opened := Takes.one joined.steady found (by simp)
    obtain ⟨_,taken,_⟩ := (sound bound).expression opened.steady within
    have ended := reached.inside (.one taken.steady closed (by simp))
    have inside := ended.back (opened.trans taken)
    obtain ⟨found',joined'⟩ := joined.take inside found (by simp)
    obtain ⟨_,within',joined'⟩ := carried.expression joined' within ended.reaches
    obtain ⟨closed',joined'⟩ := joined'.take ended closed (by simp)
    exact ⟨_,primary_ok.mpr (.inr (.inr ⟨_,_,_,found',within',closed',rfl⟩)),joined'⟩

private theorem carried_succ : Carried seam (bound + 1) where
  expression := expression_carried carried
  assignee := assignee_carried carried
  object := object_carried carried
  properties := properties_carried carried
  property := property_carried carried
  operations := operations_carried carried
  moreOperations := moreOperations_carried carried
  operation := operation_carried carried
  calls := calls_carried carried
  moreCalls := moreCalls_carried carried
  call := call_carried carried
  arguments := arguments_carried carried
  members := members_carried carried
  moreMembers := moreMembers_carried carried
  member := member_carried carried
  primary := primary_carried carried

end

/-- Whatever the bound, a parse that ends at a seam goes the same way on the other side. -/
theorem carried (seam : Seam) (bound : Nat) : Carried seam bound := by
  induction bound with
  | zero => exact carried_zero
  | succ bound ih => exact carried_succ ih

/-! Statements. -/

private theorem takes_unique {tokens again : List Token} (taken : stream.Takes tokens rest)
    (taken' : stream.Takes again rest) : tokens = again := by
  obtain ⟨lexemes,rfl,_,whole,_⟩ := taken
  obtain ⟨lexemes',rfl,_,whole',_⟩ := taken'
  rw [List.append_cancel_right (whole.symm.trans whole')]

def Ends (stream rest : Stream) : Prop := ∃ tokens, stream.Takes (tokens ++ [.semicolon]) rest

/-- A declaration has a semicolon of its own; anything may stand behind it. -/
theorem declaration_carried {opening : Lexeme} {content : Declaration}
    (joined : seam.Joins stream other) (found : stream.current = some opening)
    (inner : opening.token ≠ .eof) (ok : declaration bound stream = .ok content rest)
    (reached : seam.Reaches True rest) :
    ∃ rest', declaration bound other = .ok (content.mapSpans seam.move) rest' ∧
      seam.Joins rest rest' := by
  obtain ⟨again,name,span,foundAgain,named,form⟩ := declaration_ok.mp ok
  obtain rfl : opening = again := Option.some.inj (found.symm.trans foundAgain)
  have opened := Takes.one joined.steady found inner
  have introduced := Takes.one opened.steady named (by simp)
  rcases form with ⟨closing,variable_,closed,rfl,rfl⟩ |
    ⟨place,value,middle,closing,equals,within,closed,rfl,rfl⟩
  · have ended := reached.inside (.one introduced.steady closed (by simp))
    have inside := ended.back introduced
    obtain ⟨found',joined'⟩ := joined.take (inside.back opened) found inner
    obtain ⟨named',joined'⟩ := joined'.take inside named (by simp)
    obtain ⟨closed',joined'⟩ := joined'.take ended closed (by simp)
    exact ⟨_,declaration_ok.mpr ⟨_,name,_,found',named',.inl ⟨_,variable_,closed',rfl,rfl⟩⟩,joined'⟩
  · have started := Takes.one introduced.steady equals (by simp)
    obtain ⟨_,taken,_⟩ := (sound bound).expression started.steady within
    have ended := reached.inside (.one taken.steady closed (by simp))
    have marked := ended.back (started.trans taken)
    have inside := marked.back introduced
    obtain ⟨found',joined'⟩ := joined.take (inside.back opened) found inner
    obtain ⟨named',joined'⟩ := joined'.take inside named (by simp)
    obtain ⟨equals',joined'⟩ := joined'.take marked equals (by simp)
    obtain ⟨_,within',joined'⟩ := (carried seam bound).expression joined' within ended.reaches
    obtain ⟨closed',joined'⟩ := joined'.take ended closed (by simp)
    exact ⟨_,declaration_ok.mpr ⟨_,name,_,found',named',
      .inr ⟨_,_,_,_,equals',within',closed',rfl,rfl⟩⟩,joined'⟩

/-- A statement without a semicolon has to end at an open seam. -/
theorem statement_carried {content : Statement} (joined : seam.Joins stream other)
    (ok : statement bound stream = .ok content rest)
    (reached : seam.Reaches (seam.Open ∨ Ends stream rest) rest) :
    ∃ rest', statement bound other = .ok (content.mapSpans seam.move) rest' ∧
      seam.Joins rest rest' := by
  obtain ⟨tokens,_,taken,sentence⟩ := statement_yields joined.steady ok
  obtain ⟨token,tokens,rfl⟩ := List.exists_cons_of_ne_nil sentence.ne_nil
  have inside := reached.inside taken
  obtain ⟨lexeme,found,declared | expressed⟩ := statement_ok.mp ok
  · obtain ⟨reserved,declared,within,rfl⟩ := declared
    have inner := reserved_ne_eof reserved
    obtain ⟨found',_⟩ := joined.take inside found inner
    obtain ⟨rest',within',joined'⟩ :=
      declaration_carried joined found inner within (reached.mono fun _ => trivial)
    exact ⟨rest',statement_ok.mpr ⟨_,found',.inl ⟨reserved,_,within',rfl⟩⟩,joined'⟩
  · obtain ⟨free,tree,middle,within,rfl,done⟩ := expressed
    obtain ⟨lexeme',again,found'⟩ := joined.current inside
    obtain rfl : lexeme = lexeme' := Option.some.inj (found.symm.trans again)
    obtain ⟨inner,takenInner,derived⟩ := (sound bound).expression joined.steady within
    split at done
    · next closed =>
      obtain ⟨_,semicolon⟩ := isAt_iff.mp closed
      subst done
      have ended := reached.inside (.one takenInner.steady semicolon (by simp))
      obtain ⟨_,within',joined'⟩ := (carried seam bound).expression joined within ended.reaches
      obtain ⟨semicolon',joined'⟩ := joined'.take ended semicolon (by simp)
      exact ⟨_,statement_ok.mpr ⟨_,found',.inr ⟨free,_,_,within',rfl,
        if_pos (isAt_iff.mpr ⟨_,semicolon'⟩)⟩⟩,joined'⟩
    · next opened =>
      subst done
      have reached : seam.Reaches seam.Open middle := by
        refine reached.mono fun either => either.resolve_right ?_
        intro ended
        obtain ⟨front,takenFront⟩ := ended
        have same := takes_unique takenInner takenFront
        exact derived.semicolon_not_mem (by simp [same])
      obtain ⟨_,within',joined'⟩ := (carried seam bound).expression joined within reached
      refine ⟨_,statement_ok.mpr ⟨_,found',.inr ⟨free,_,_,within',rfl,if_neg ?_⟩⟩,joined'⟩
      rcases joined'.cases reached with alike | ⟨_,free⟩
      · rwa [joined'.isAt_eq alike]
      · simp [free]

theorem statement_parsed {content : Statement} (joined : seam.Joins stream other)
    (enough : 8 * stream.pending + 6 ≤ bound) (ok : statement bound stream = .ok content rest)
    (reached : seam.Reaches (seam.Open ∨ Ends stream rest) rest) :
    ∃ rest', Parses statement other (content.mapSpans seam.move) rest' ∧
      seam.Joins rest rest' := by
  obtain ⟨rest',_,joined'⟩ := statement_carried joined ok reached
  refine ⟨rest',⟨bound,?_⟩,joined'⟩
  intro larger more
  have again : statement larger stream = .ok content rest := by
    rw [← statement_settled.run joined.steady enough (by omega),ok]
  obtain ⟨rest'',ok',joined''⟩ := statement_carried joined again reached
  rw [ok',joined''.unique joined']

theorem Ends.tail {token : Token} {tokens more : List Token} (ended : Ends stream rest)
    (before : stream.Takes tokens middle) (after : middle.Takes (token :: more) rest) :
    Ends middle rest := by
  obtain ⟨front,taken⟩ := ended
  have whole := takes_unique (before.trans after) taken
  have last : (token :: more).getLast? = some .semicolon := by
    simpa using congrArg List.getLast? whole
  obtain ⟨init,same⟩ := List.getLast?_eq_some_iff.mp last
  exact ⟨init,same ▸ after⟩

theorem sentences_nil {apart : Bool} {tokens : List Token} {trees : List Statement}
    (sentences : Sentences apart tokens trees) (none : tokens = []) : trees = [] := by
  cases sentences with
  | none => rfl
  | more sentence _ _ => exact (sentence.ne_nil (List.append_eq_nil_iff.mp none).1).elim

/-- Statements up to the seam, followed by those behind it. -/
theorem statements_carried {trees : List Statement} (joined : seam.Joins stream other)
    (enough : 8 * stream.pending + 7 ≤ bound) (ok : statements bound stream = .ok trees rest)
    (here : rest.tokens.length = seam.behind.length + 1)
    (apart : seam.Open ∨ Ends stream rest ∨ trees = []) :
    ∃ rest', seam.Joins rest rest' ∧ ∀ {more final}, Parses statements rest' more final →
      Parses statements other (trees.map (Statement.mapSpans seam.move) ++ more) final := by
  induction bound generalizing stream other trees with
  | zero => omega
  | succ bound ih =>
    rcases statements_ok.mp ok with ⟨_,rfl,rfl⟩ | ⟨proper,first,middle,others,head,tail,rfl⟩
    · exact ⟨other,joined,id⟩
    · obtain ⟨before,_,taken,sentence⟩ := statement_yields joined.steady head
      obtain ⟨after,takenAfter,sentences,_⟩ := statements_yields taken.steady tail
      have shorter := shorter_of_takes taken sentence.ne_nil
      have apart : seam.Open ∨ Ends stream rest := apart.imp_right (·.resolve_right (by simp))
      -- Only the last statement comes up to the seam.
      obtain ⟨reached,later⟩ : seam.Reaches (seam.Open ∨ Ends stream middle) middle ∧
          (seam.Open ∨ Ends middle rest ∨ others = []) := by
        cases after with
        | nil =>
          obtain rfl := takenAfter.nil
          have none := List.map_eq_nil_iff.mp (sentences_nil sentences rfl)
          exact ⟨.inr ⟨apart,here⟩,.inr (.inr none)⟩
        | cons token after =>
          have inside := Seam.Reaches.inside (.inr ⟨trivial,here⟩) takenAfter
          exact ⟨inside.reaches,apart.imp_right fun ended => .inl (ended.tail taken takenAfter)⟩
      obtain ⟨middle',head',joined'⟩ := statement_parsed joined (by omega) head reached
      obtain ⟨rest',joined',onward⟩ := ih joined' (by have := shorter.2; omega) tail later
      refine ⟨rest',joined',fun following => ?_⟩
      obtain ⟨token,before,rfl⟩ := List.exists_cons_of_ne_nil sentence.ne_nil
      have proper' : other.notEof = true :=
        (joined.notEof_eq (reached.inside taken).reaches).trans proper
      exact parses_moreStatements proper' head' (onward following)

end Scriptlet.Parser
