import Scriptlet.Proofs.Parser.Blame

/-! Every rule gives up at the first token that cannot go on: what it has taken can be completed
to its phrase. The induction is on the bound, with one lemma for each rule. -/
namespace Scriptlet.Parser
open Grammar Scriptlet.Stream

variable {α : Type} {stream rest : Stream} {reason : ParseError} {bound : Nat}

/-! Phrases up to their trees. -/

def Is {τ : Type} (kind : τ → Phrase) (tokens : List Token) : Prop :=
  ∃ tree, Derives tokens (kind tree)

def Grows (kind : Expr → Phrase) (tokens : List Token) : Prop :=
  ∀ before, Is kind before → Is kind (before ++ tokens)

theorem Grows.append {kind : Expr → Phrase} {tokens more : List Token} (first : Grows kind tokens)
    (second : Grows kind more) : Grows kind (tokens ++ more) := by
  intro before phrase
  rw [← List.append_assoc]
  exact second _ (first _ phrase)

/-- A factor behind a sum belongs to its last summand. -/
theorem additive_grows {sign : Operator} {tokens more : List Token} {right : Expr}
    (multiplicative : sign.isMultiplicative = true) (sum : Is .additive tokens)
    (factor : Derives more (.callMember right)) :
    Is .additive (tokens ++ .operator sign :: more) := by
  obtain ⟨tree,derived⟩ := sum
  cases derived with
  | product single => exact ⟨_,.product (.times multiplicative single factor)⟩
  | sum additive before after =>
    have longer := Derives.sum additive before (.times multiplicative after factor)
    exact ⟨_,by simpa using longer⟩

private theorem level_grows {floor : Precedence} {sign : Operator} {more : List Token}
    (tighter : floor.rank < (Precedence.ofToken (.operator sign)).rank)
    (operand : Is (level (Precedence.ofToken (.operator sign))) more) :
    Grows (level floor) (.operator sign :: more) := by
  intro before phrase
  obtain ⟨right,derived⟩ := operand
  cases additive : sign.isAdditive with
  | true =>
    simp only [Precedence.ofToken,additive,if_true] at tighter derived
    cases floor with
    | lowest =>
      obtain ⟨left,sum⟩ := phrase
      exact ⟨_,.sum additive sum derived⟩
    | _ => simp [Precedence.rank] at tighter
  | false =>
    have multiplicative : sign.isMultiplicative = true := by
      simp [Operator.isMultiplicative,additive]
    simp only [Precedence.ofToken,additive,Bool.false_eq_true,if_false] at tighter derived
    cases floor with
    | lowest => exact additive_grows multiplicative phrase derived
    | sum =>
      obtain ⟨left,product⟩ := phrase
      exact ⟨_,.times multiplicative product derived⟩
    | product => simp at tighter

theorem is_name (name : String) : Is .callMember [.ident name] :=
  ⟨_,.noCall (.noMember .identifier)⟩

theorem is_level {tokens : List Token} (operand : Is .callMember tokens) (floor : Precedence) :
    Is (level floor) tokens := by
  obtain ⟨tree,derived⟩ := operand
  cases floor with
  | lowest => exact ⟨tree,.product (.factor derived)⟩
  | sum => exact ⟨tree,.factor derived⟩
  | product => exact ⟨tree,derived⟩

private theorem grows_empty : Grows .callMember [.leftParen,.rightParen] := by
  rintro before ⟨tree,derived⟩
  exact ⟨_,.emptyCall derived⟩

private theorem grows_given {tokens : List Token} {trees : List Expr}
    (given : Derives tokens (.arguments trees)) :
    Grows .callMember (.leftParen :: tokens ++ [.rightParen]) := by
  rintro before ⟨tree,derived⟩
  exact ⟨_,by simpa using Derives.call derived given⟩

private theorem grows_named {name : String} : Grows .member [.dot,.ident name] := by
  rintro before ⟨tree,derived⟩
  exact ⟨_,.named derived⟩

private theorem grows_computed {tokens : List Token} {key : Expr}
    (inside : Derives tokens (.expression key)) :
    Grows .member (.leftBracket :: tokens ++ [.rightBracket]) := by
  rintro before ⟨tree,derived⟩
  exact ⟨_,by simpa using Derives.computed derived inside⟩

section
variable {left tree : Expr} (steady : stream.Steady)
include steady

private theorem operation_grows {floor : Precedence} (tighter : floor.rank < stream.precedence.rank)
    (ok : operation bound left stream = .ok tree rest) :
    ∃ tokens, stream.Takes tokens rest ∧ Grows (level floor) tokens := by
  cases bound with
  | zero => simp [operation,failAtEnd_run] at ok
  | succ bound =>
    obtain ⟨sign,span,right,found,operand,_⟩ := operation_ok.mp ok
    have signed := Takes.one steady found (by simp)
    obtain ⟨⟨tokens,taken,derived⟩,_⟩ := (sound bound).operations signed.steady operand
    rw [precedence_of_current found] at tighter derived
    exact ⟨_,signed.trans taken,level_grows tighter ⟨_,derived⟩⟩

private theorem call_grows (ok : call bound left stream = .ok tree rest) :
    ∃ tokens, stream.Takes tokens rest ∧ Grows .callMember tokens := by
  cases bound with
  | zero => simp [call,failAtEnd_run] at ok
  | succ bound =>
    obtain ⟨opening,given,middle,closing,found,within,closed,rfl,_⟩ := call_ok.mp ok
    have opened := Takes.one steady found (by simp)
    rcases within with ⟨_,_,rfl⟩ | ⟨_,within⟩
    · exact ⟨_,opened.trans (.one opened.steady closed (by simp)),grows_empty⟩
    · obtain ⟨tokens,taken,derived⟩ := (sound bound).arguments opened.steady within
      exact ⟨_,opened.trans (taken.trans (.one taken.steady closed (by simp))),
        by simpa using grows_given derived⟩

private theorem member_grows (ok : member bound left stream = .ok tree rest) :
    ∃ tokens, stream.Takes tokens rest ∧ Grows .member tokens := by
  cases bound with
  | zero => simp [member,failAtEnd_run] at ok
  | succ bound =>
    rcases member_ok.mp ok with ⟨_,_,_,found,named,rfl,_⟩ |
      ⟨_,_,middle,_,found,within,closed,rfl,_⟩
    · have dotted := Takes.one steady found (by simp)
      exact ⟨_,dotted.trans (.one dotted.steady named (by simp)),grows_named⟩
    · have opened := Takes.one steady found (by simp)
      obtain ⟨tokens,taken,derived⟩ := (sound bound).expression opened.steady within
      exact ⟨_,opened.trans (taken.trans (.one taken.steady closed (by simp))),
        by simpa using grows_computed derived⟩

end

private theorem is_primary : ∃ tokens, Is .primary tokens := ⟨[.ident "a"],_,.identifier⟩

private theorem number_halts {digits : String} {span : Span}
    (found : stream.current = some ⟨.number digits,span⟩)
    (failed : number stream = .error reason rest) :
    Halts number stream reason rest (Is .primary) := by
  cases read : Number.read? digits with
  | some value =>
    rw [number_ok.mpr ⟨digits,span,value,found,read,rfl,rfl⟩] at failed
    cases failed
  | none =>
    have same (other : Stream) (shown : other.current = some ⟨.number digits,span⟩) :
        number other = .error ⟨.invalidNumber digits,span⟩ other.step := by
      rw [number,take_bind,shown]
      simp only [read,fail_run]
    rw [same stream found] at failed
    obtain ⟨rfl,_⟩ := EStateM.Result.error.inj failed
    exact halts_here found .number is_primary fun other shown => ⟨other.step,same other shown⟩

/-- With a sufficient bound, every failure is at a token that cannot go on. -/
def Tells (cost bound : Nat) (parser : Parser α) (completes : List Token → Prop) : Prop :=
  ∀ ⦃stream reason rest⦄, stream.Steady → 8 * stream.pending + cost ≤ bound →
    parser stream = .error reason rest → Halts parser stream reason rest completes

/-- The costs are those of `Enough`. The two rules that take the current token unseen are
entered in front of an operator, a dot or a bracket only. -/
structure Telling (bound : Nat) : Prop where
  expression : Tells 6 bound (Parser.expression bound) (Is .expression)
  assignee : Tells 5 bound (Parser.assignee bound) (Is .assignee)
  object : Tells 1 bound (Parser.object bound) (Is .assignee)
  properties : Tells 2 bound (Parser.properties bound) (Is .properties)
  property : Tells 1 bound (Parser.property bound) (Is .properties)
  operations : ∀ floor, Tells 4 bound (Parser.operations bound floor) (Is (level floor))
  moreOperations : ∀ floor left,
    Tells 2 bound (Parser.moreOperations bound floor left) (Grows (level floor))
  operation : ∀ (floor : Precedence) left ⦃stream reason rest⦄, stream.Steady →
    8 * stream.pending + 1 ≤ bound → floor.rank < stream.precedence.rank →
    Parser.operation bound left stream = .error reason rest →
    Halts (Parser.operation bound left) stream reason rest (Grows (level floor))
  calls : Tells 3 bound (Parser.calls bound) (Is .callMember)
  moreCalls : ∀ callee, Tells 2 bound (Parser.moreCalls bound callee) (Grows .callMember)
  call : ∀ callee, Tells 1 bound (Parser.call bound callee) (Grows .callMember)
  arguments : Tells 7 bound (Parser.arguments bound) (Is .arguments)
  members : Tells 2 bound (Parser.members bound) (Is .member)
  moreMembers : ∀ object, Tells 2 bound (Parser.moreMembers bound object) (Grows .member)
  member : ∀ object ⦃stream reason rest⦄, stream.Steady → 8 * stream.pending + 1 ≤ bound →
    (stream.isAt .dot || stream.isAt .leftBracket) = true →
    Parser.member bound object stream = .error reason rest →
    Halts (Parser.member bound object) stream reason rest (Grows .member)
  primary : Tells 1 bound (Parser.primary bound) (Is .primary)

private theorem telling_zero : Telling 0 := by
  constructor <;> intros <;> first | omega | (intro stream reason rest _ _; omega)

section
variable (telling : Telling bound)
include telling

private theorem expression_tells :
    Tells 6 (bound + 1) (expression (bound + 1)) (Is .expression) := by
  intro stream reason rest steady enough failed
  rw [expression,Production.expression] at failed ⊢
  rcases bind_error.mp failed with failed | ⟨target,middle,ok,failed⟩
  · have inner := telling.assignee steady (by omega) failed
    apply (inner.first _).mono
    rintro tokens ⟨tree,derived⟩
    exact ⟨[],tree,by simpa using .plain derived⟩
  · obtain ⟨before,taken,derived⟩ := (sound bound).assignee steady ok
    have shorter := assignee_shorter steady ok
    rw [isAt_bind] at failed
    split at failed
    · next equals =>
      obtain ⟨span,found⟩ := isAt_iff.mp equals
      have stepped := Takes.one taken.steady found (by simp)
      have fewer := (shorter_step taken.steady found (by simp)).trans shorter
      rw [step_bind,bind_pure_error] at failed
      have inner := telling.expression stepped.steady (by have := fewer.2; omega) failed
      apply Halts.mono (.after (assignee_steers ok) taken steady (.ifHeld equals
        (.after (step_steers taken.steady found (by simp)) stepped taken.steady (inner.first _))))
      rintro _ ⟨_,⟨tokens,⟨value,derivedAfter⟩,rfl⟩,rfl⟩
      exact ⟨[],_,by simpa using .assign derived derivedAfter⟩
    · cases failed

private theorem assignee_tells : Tells 5 (bound + 1) (assignee (bound + 1)) (Is .assignee) := by
  intro stream reason rest steady enough failed
  rw [assignee_run] at failed
  rw [assignee,Production.assignee]
  split at failed
  · next brace => exact .ifHeld brace (telling.object steady (by omega) failed)
  · next plain =>
    have inner := telling.operations .lowest steady (by omega) failed
    apply Halts.ifMissing (by simpa using plain) (inner.mono _)
    rintro tokens ⟨tree,derived⟩
    exact ⟨[],tree,by simpa using .operations derived⟩

private theorem object_tells : Tells 1 (bound + 1) (object (bound + 1)) (Is .assignee) := by
  intro stream reason rest steady enough failed
  rw [object,Production.object] at failed ⊢
  have braced {tokens : List Token} {trees : List Property}
      (derived : Derives tokens (.properties trees)) :
      Is .assignee (.leftBrace :: tokens ++ [.rightBrace]) := ⟨_,.object derived⟩
  rcases bind_error.mp failed with failed | ⟨opening,_,ok,failed⟩
  · apply Halts.mono ((expectToken_halts steady failed).first _)
    rintro _ rfl
    exact ⟨[.rightBrace],braced .noProperties⟩
  · obtain ⟨found,rfl⟩ := expectToken_ok.mp ok
    have opened := Takes.one steady found (by simp)
    have fewer := shorter_step steady found (by simp)
    have steered := expectToken_steers steady found (by simp)
    rcases bind_error.mp failed with failed | ⟨content,middle,ok,failed⟩
    · have inner := telling.properties opened.steady (by have := fewer.2; omega) failed
      apply Halts.mono (.after steered opened steady (inner.first _))
      rintro _ ⟨tokens,⟨trees,derived⟩,rfl⟩
      exact ⟨[.rightBrace],braced derived⟩
    · obtain ⟨tokens,taken,derived⟩ := (sound bound).properties opened.steady ok
      have inner := expectToken_halts taken.steady (bind_pure_error.mp failed)
      apply Halts.mono (.after steered opened steady
        (.after (properties_steers ok) taken opened.steady (inner.first _)))
      rintro _ ⟨_,⟨_,rfl,rfl⟩,rfl⟩
      exact ⟨[],by simpa using braced derived⟩

private theorem properties_tells :
    Tells 2 (bound + 1) (properties (bound + 1)) (Is .properties) := by
  intro stream reason rest steady enough failed
  rw [properties,Production.properties,notEof_bind,isAt_bind] at failed
  split at failed
  · next more =>
    have inner : Halts (do
        let first ← property bound
        let rest ← properties bound
        return first :: rest) stream reason rest (Is .properties) := by
      rcases bind_error.mp failed with failed | ⟨first,middle,ok,failed⟩
      · exact (telling.property steady (by omega) failed).first _
      · rw [bind_pure_error] at failed
        have shorter := property_shorter steady ok
        obtain ⟨tokens,derived,taken | ⟨taken,brace⟩⟩ := (sound bound).property steady ok
        · have inner := telling.properties taken.steady (by have := shorter.2; omega) failed
          apply Halts.mono (.after (property_steers ok) taken steady (inner.first _))
          rintro _ ⟨others,⟨trees,derivedAfter⟩,rfl⟩
          exact ⟨[],_,by simpa using .moreProperties derived derivedAfter⟩
        · -- At the closing brace the list of properties is over.
          obtain ⟨bound,rfl⟩ : ∃ less, bound = less + 1 := ⟨bound - 1,by omega⟩
          rw [properties_ok.mpr (.inl ⟨.inr brace,rfl,rfl⟩)] at failed
          cases failed
    apply inner.alike
    intro other shown
    rw [properties,Production.properties,notEof_bind,isAt_bind,notEof_congr shown,isAt_congr shown,
      if_pos more]
  · cases failed

private theorem value_halts (name : String) (start : UInt32) (steady : stream.Steady)
    (enough : 8 * stream.pending ≤ bound)
    (failed : (do
      let _ ← expectToken .colon
      let value ← expression bound
      if !(← isAt .rightBrace) then let _ ← expectToken .comma
      return Property.valued name value ⟨start,value.span.stop⟩) stream = .error reason rest) :
    Halts (do
      let _ ← expectToken .colon
      let value ← expression bound
      if !(← isAt .rightBrace) then let _ ← expectToken .comma
      return Property.valued name value ⟨start,value.span.stop⟩) stream reason rest
      (fun tokens => Is .properties (.ident name :: tokens)) := by
  have valued {tokens : List Token} {tree : Expr} (derived : Derives tokens (.expression tree)) :
      Is .properties (.ident name :: .colon :: tokens) := ⟨_,.lastProperty (.valued derived)⟩
  rcases bind_error.mp failed with failed | ⟨place,_,ok,failed⟩
  · apply Halts.mono ((expectToken_halts steady failed).first _)
    rintro _ rfl
    obtain ⟨_,derived⟩ := is_level (is_name "a") .lowest
    exact ⟨[.ident "a"],valued (.plain (.operations derived))⟩
  · obtain ⟨colon,rfl⟩ := expectToken_ok.mp ok
    have marked := Takes.one steady colon (by simp)
    have fewer := shorter_step steady colon (by simp)
    have steered := expectToken_steers steady colon (by simp)
    rcases bind_error.mp failed with failed | ⟨value,middle,ok,failed⟩
    · have inner := telling.expression marked.steady (by have := fewer.2; omega) failed
      apply Halts.mono (.after steered marked steady (inner.first _))
      rintro _ ⟨tokens,⟨tree,derived⟩,rfl⟩
      exact ⟨[],by simpa using valued derived⟩
    · obtain ⟨tokens,taken,derived⟩ := (sound bound).expression marked.steady ok
      rw [isAt_bind] at failed
      split at failed
      · next unclosed =>
        have inner := expectToken_halts taken.steady (bind_pure_error.mp failed)
        have last : Halts (do
            if !(← isAt .rightBrace) then let _ ← expectToken .comma
            return Property.valued name value ⟨start,value.span.stop⟩)
            middle reason rest (· = [.comma]) := by
          apply (inner.first fun _ => pure _).alike
          intro other shown
          rw [isAt_bind,isAt_congr shown,if_pos unclosed]
        apply Halts.mono (.after steered marked steady
          (.after (expression_steers ok) taken marked.steady last))
        rintro _ ⟨_,⟨_,rfl,rfl⟩,rfl⟩
        have whole : Derives (.ident name :: .colon :: tokens ++ [.comma]) _ :=
          .moreProperties (.valued derived) .noProperties
        exact ⟨[],_,by simpa using whole⟩
      · cases failed

private theorem property_tells : Tells 1 (bound + 1) (property (bound + 1)) (Is .properties) := by
  intro stream reason rest steady enough failed
  rw [property,Production.property] at failed ⊢
  rcases bind_error.mp failed with failed | ⟨⟨name,span⟩,_,ok,failed⟩
  · apply Halts.mono ((expectIdent_halts steady failed).first _)
    rintro _ ⟨name,rfl⟩
    exact ⟨[],_,.lastProperty .shorthand⟩
  · obtain ⟨named,rfl⟩ := expectIdent_ok.mp ok
    have keyed := Takes.one steady named (by simp)
    have shorter := shorter_step steady named (by simp)
    rw [isAt_bind] at failed
    split at failed
    · cases failed
    · next noComma =>
      rw [isAt_bind] at failed
      split at failed
      · cases failed
      · next noBrace =>
        have inner := value_halts telling name span.start keyed.steady
          (by have := shorter.2; omega) failed
        apply Halts.mono (.after (expectIdent_steers steady named) keyed steady
          (.ifMissing (by simpa using noComma) (.ifMissing (by simpa using noBrace) inner)))
        rintro _ ⟨tokens,complete,rfl⟩
        exact ⟨[],by simpa using complete⟩

private theorem operations_tells (floor : Precedence) :
    Tells 4 (bound + 1) (operations (bound + 1) floor) (Is (level floor)) := by
  intro stream reason rest steady enough failed
  rw [operations,Production.operations] at failed ⊢
  rcases bind_error.mp failed with failed | ⟨left,middle,ok,failed⟩
  · apply Halts.mono ((telling.calls steady (by omega) failed).first _)
    intro tokens operand
    exact ⟨[],by simpa using is_level operand floor⟩
  · obtain ⟨tokens,taken,derived⟩ := (sound bound).calls steady ok
    have shorter := calls_shorter steady ok
    have inner :=
      telling.moreOperations floor left taken.steady (by have := shorter.2; omega) failed
    apply Halts.mono (.after (calls_steers ok) taken steady inner)
    rintro _ ⟨more,grows,rfl⟩
    exact ⟨[],by simpa using grows tokens (is_level ⟨_,derived⟩ floor)⟩

private theorem operation_tells (floor : Precedence) (left : Expr) (steady : stream.Steady)
    (enough : 8 * stream.pending + 1 ≤ bound + 1)
    (tighter : floor.rank < stream.precedence.rank)
    (failed : operation (bound + 1) left stream = .error reason rest) :
    Halts (operation (bound + 1) left) stream reason rest (Grows (level floor)) := by
  obtain ⟨sign,span,found,_⟩ := operator_of_precedence tighter
  have signed := Takes.one steady found (by simp)
  have fewer := shorter_step steady found (by simp)
  have strength := precedence_of_current found
  rw [operation,Production.operation,precedence_bind,bind_of_ok (operator_ok.mpr ⟨span,found,rfl⟩),
    bind_pure_error] at failed
  have inner := telling.operations _ signed.steady (by have := fewer.2; omega) failed
  have whole : Halts (do
      let sign ← operator
      let right ← operations bound stream.precedence
      return Expr.binary sign left right (left.span.merge right.span)) stream reason rest
        (Grows (level floor)) := by
    apply Halts.mono (.after (operator_steers steady found) signed steady (inner.first _))
    rintro _ ⟨tokens,operand,rfl⟩
    rw [strength] at tighter operand
    exact ⟨[],by simpa using level_grows tighter operand⟩
  apply whole.alike
  intro other shown
  rw [operation,Production.operation,precedence_bind,precedence_congr shown]

private theorem moreOperations_tells (floor : Precedence) (left : Expr) :
    Tells 2 (bound + 1) (moreOperations (bound + 1) floor left) (Grows (level floor)) := by
  intro stream reason rest steady enough failed
  rw [moreOperations,Production.moreOperations,precedence_bind] at failed
  split at failed
  · next tighter =>
    have inner : Halts (operation bound left >>= moreOperations bound floor) stream reason rest
        (Grows (level floor)) := by
      rcases bind_error.mp failed with failed | ⟨whole,middle,ok,failed⟩
      · exact (telling.operation floor left steady (by omega) tighter failed).first _
      · obtain ⟨tokens,taken,grows⟩ := operation_grows steady tighter ok
        have shorter := operation_shorter steady ok
        have inner := telling.moreOperations floor whole taken.steady
          (by have := shorter.2; omega) failed
        apply Halts.mono (.after (operation_steers ok) taken steady inner)
        rintro _ ⟨more,further,rfl⟩
        exact ⟨[],by simpa using grows.append further⟩
    apply inner.alike
    intro other shown
    rw [moreOperations,Production.moreOperations,precedence_bind,precedence_congr shown,
      if_pos tighter]
  · cases failed

private theorem calls_tells : Tells 3 (bound + 1) (calls (bound + 1)) (Is .callMember) := by
  intro stream reason rest steady enough failed
  rw [calls,Production.calls] at failed ⊢
  rcases bind_error.mp failed with failed | ⟨callee,middle,ok,failed⟩
  · apply Halts.mono ((telling.members steady (by omega) failed).first _)
    rintro tokens ⟨tree,derived⟩
    exact ⟨[],tree,by simpa using .noCall derived⟩
  · obtain ⟨tokens,taken,derived⟩ := (sound bound).members steady ok
    have shorter := members_shorter steady ok
    have inner := telling.moreCalls callee taken.steady (by have := shorter.2; omega) failed
    apply Halts.mono (.after (members_steers ok) taken steady inner)
    rintro _ ⟨more,grows,rfl⟩
    exact ⟨[],by simpa using grows tokens ⟨_,.noCall derived⟩⟩

private theorem moreCalls_tells (callee : Expr) :
    Tells 2 (bound + 1) (moreCalls (bound + 1) callee) (Grows .callMember) := by
  intro stream reason rest steady enough failed
  rw [moreCalls,Production.moreCalls] at failed ⊢
  rw [isAt_bind] at failed
  split at failed
  · next paren =>
    apply Halts.ifHeld paren
    rcases bind_error.mp failed with failed | ⟨whole,middle,ok,failed⟩
    · exact (telling.call callee steady (by omega) failed).first _
    · obtain ⟨tokens,taken,grows⟩ := call_grows steady ok
      have shorter := call_shorter steady ok
      have inner := telling.moreCalls whole taken.steady (by have := shorter.2; omega) failed
      apply Halts.mono (.after (call_steers ok) taken steady inner)
      rintro _ ⟨more,further,rfl⟩
      exact ⟨[],by simpa using grows.append further⟩
  · cases failed

private theorem call_tells (callee : Expr) :
    Tells 1 (bound + 1) (call (bound + 1) callee) (Grows .callMember) := by
  intro stream reason rest steady enough failed
  rw [call,Production.call] at failed ⊢
  rcases bind_error.mp failed with failed | ⟨opening,_,ok,failed⟩
  · apply Halts.mono ((expectToken_halts steady failed).first _)
    rintro _ rfl
    exact ⟨[.rightParen],grows_empty⟩
  · obtain ⟨found,rfl⟩ := expectToken_ok.mp ok
    have opened := Takes.one steady found (by simp)
    have fewer := shorter_step steady found (by simp)
    have steered := expectToken_steers steady found (by simp)
    rw [isAt_bind] at failed
    split at failed
    · next empty =>
      obtain ⟨closing,closed⟩ := isAt_iff.mp empty
      have ended := bind_pure_error.mp ((bind_of_ok pure_run).symm.trans failed)
      rw [expectToken_ok.mpr ⟨closed,rfl⟩] at ended
      cases ended
    · next given =>
      rcases bind_error.mp failed with failed | ⟨trees,middle,ok,failed⟩
      · have inner := telling.arguments opened.steady (by have := fewer.2; omega) failed
        apply Halts.mono (.after steered opened steady (.ifMissing (by simpa using given)
          (inner.first _)))
        rintro _ ⟨tokens,⟨trees,derived⟩,rfl⟩
        exact ⟨[.rightParen],by simpa using grows_given derived⟩
      · obtain ⟨tokens,taken,derived⟩ := (sound bound).arguments opened.steady ok
        have inner := expectToken_halts taken.steady (bind_pure_error.mp failed)
        apply Halts.mono (.after steered opened steady (.ifMissing (by simpa using given)
          (.after (arguments_steers ok) taken opened.steady (inner.first _))))
        rintro _ ⟨_,⟨_,rfl,rfl⟩,rfl⟩
        exact ⟨[],by simpa using grows_given derived⟩

private theorem arguments_tells : Tells 7 (bound + 1) (arguments (bound + 1)) (Is .arguments) := by
  intro stream reason rest steady enough failed
  rw [arguments,Production.arguments] at failed ⊢
  rcases bind_error.mp failed with failed | ⟨first,middle,ok,failed⟩
  · apply Halts.mono ((telling.expression steady (by omega) failed).first _)
    rintro tokens ⟨tree,derived⟩
    exact ⟨[],_,by simpa using .lastArgument derived⟩
  · obtain ⟨tokens,taken,derived⟩ := (sound bound).expression steady ok
    have shorter := expression_shorter steady ok
    rw [isAt_bind] at failed
    split at failed
    · next comma =>
      obtain ⟨span,found⟩ := isAt_iff.mp comma
      have stepped := Takes.one taken.steady found (by simp)
      have fewer := (shorter_step taken.steady found (by simp)).trans shorter
      rw [step_bind,bind_pure_error] at failed
      have inner := telling.arguments stepped.steady (by have := fewer.2; omega) failed
      apply Halts.mono (.after (expression_steers ok) taken steady (.ifHeld comma
        (.after (step_steers taken.steady found (by simp)) stepped taken.steady (inner.first _))))
      rintro _ ⟨_,⟨others,⟨trees,derivedAfter⟩,rfl⟩,rfl⟩
      exact ⟨[],_,by simpa using .moreArguments derived derivedAfter⟩
    · cases failed

private theorem members_tells : Tells 2 (bound + 1) (members (bound + 1)) (Is .member) := by
  intro stream reason rest steady enough failed
  rw [members,Production.members] at failed ⊢
  rcases bind_error.mp failed with failed | ⟨object,middle,ok,failed⟩
  · apply Halts.mono ((telling.primary steady (by omega) failed).first _)
    rintro tokens ⟨tree,derived⟩
    exact ⟨[],tree,by simpa using .noMember derived⟩
  · obtain ⟨tokens,taken,derived⟩ := (sound bound).primary steady ok
    have shorter := primary_shorter steady ok
    have inner := telling.moreMembers object taken.steady (by have := shorter.2; omega) failed
    apply Halts.mono (.after (primary_steers ok) taken steady inner)
    rintro _ ⟨more,grows,rfl⟩
    exact ⟨[],by simpa using grows tokens ⟨_,.noMember derived⟩⟩

private theorem moreMembers_tells (object : Expr) :
    Tells 2 (bound + 1) (moreMembers (bound + 1) object) (Grows .member) := by
  intro stream reason rest steady enough failed
  rw [moreMembers,Production.moreMembers,isAt_bind,isAt_bind] at failed
  split at failed
  · next entered =>
    have inner : Halts (member bound object >>= moreMembers bound) stream reason rest
        (Grows .member) := by
      rcases bind_error.mp failed with failed | ⟨whole,middle,ok,failed⟩
      · exact (telling.member object steady (by omega) entered failed).first _
      · obtain ⟨tokens,taken,grows⟩ := member_grows steady ok
        have shorter := member_shorter steady ok
        have inner := telling.moreMembers whole taken.steady (by have := shorter.2; omega) failed
        apply Halts.mono (.after (member_steers ok) taken steady inner)
        rintro _ ⟨more,further,rfl⟩
        exact ⟨[],by simpa using grows.append further⟩
    apply inner.alike
    intro other shown
    rw [moreMembers,Production.moreMembers,isAt_bind,isAt_bind,isAt_congr shown,isAt_congr shown,
      if_pos entered]
  · cases failed

private theorem member_tells (object : Expr) (steady : stream.Steady)
    (enough : 8 * stream.pending + 1 ≤ bound + 1)
    (entered : (stream.isAt .dot || stream.isAt .leftBracket) = true)
    (failed : member (bound + 1) object stream = .error reason rest) :
    Halts (member (bound + 1) object) stream reason rest (Grows .member) := by
  rw [member,Production.member] at failed ⊢
  rcases Bool.or_eq_true _ _ |>.mp entered with dot | bracket
  · obtain ⟨span,found⟩ := isAt_iff.mp dot
    have dotted := Takes.one steady found (by simp)
    rw [take_bind,found] at failed
    have inner := expectIdent_halts dotted.steady (bind_pure_error.mp failed)
    apply Halts.mono (.after (take_steers steady found (by simp)) dotted steady (inner.first _))
    rintro _ ⟨_,⟨name,rfl⟩,rfl⟩
    exact ⟨[],grows_named⟩
  · obtain ⟨span,found⟩ := isAt_iff.mp bracket
    have opened := Takes.one steady found (by simp)
    have fewer := shorter_step steady found (by simp)
    have steered := take_steers steady found (by simp)
    rw [take_bind,found] at failed
    rcases bind_error.mp failed with failed | ⟨key,middle,ok,failed⟩
    · have inner := telling.expression opened.steady (by have := fewer.2; omega) failed
      apply Halts.mono (.after steered opened steady (inner.first _))
      rintro _ ⟨tokens,⟨tree,derived⟩,rfl⟩
      exact ⟨[.rightBracket],by simpa using grows_computed derived⟩
    · obtain ⟨tokens,taken,derived⟩ := (sound bound).expression opened.steady ok
      have inner := expectToken_halts taken.steady (bind_pure_error.mp failed)
      apply Halts.mono (.after steered opened steady
        (.after (expression_steers ok) taken opened.steady (inner.first _)))
      rintro _ ⟨_,⟨_,rfl,rfl⟩,rfl⟩
      exact ⟨[],by simpa using grows_computed derived⟩

private theorem parentheses_halts {span : Span} (steady : stream.Steady)
    (enough : 8 * stream.pending ≤ bound) (found : stream.current = some ⟨.leftParen,span⟩)
    (failed : (do
      step
      let inner ← expression bound
      let _ ← expectToken .rightParen
      return inner) stream = .error reason rest) :
    Halts (do
      step
      let inner ← expression bound
      let _ ← expectToken .rightParen
      return inner) stream reason rest (Is .primary) := by
  have opened := Takes.one steady found (by simp)
  have fewer := shorter_step steady found (by simp)
  have steered := step_steers steady found (by simp)
  rw [step_bind] at failed
  rcases bind_error.mp failed with failed | ⟨tree,middle,ok,failed⟩
  · have inner := telling.expression opened.steady (by have := fewer.2; omega) failed
    apply Halts.mono (.after steered opened steady (inner.first _))
    rintro _ ⟨tokens,⟨tree,derived⟩,rfl⟩
    exact ⟨[.rightParen],tree,.parentheses derived⟩
  · obtain ⟨tokens,taken,derived⟩ := (sound bound).expression opened.steady ok
    have inner := expectToken_halts taken.steady (bind_pure_error.mp failed)
    apply Halts.mono (.after steered opened steady
      (.after (expression_steers ok) taken opened.steady (inner.first _)))
    rintro _ ⟨_,⟨_,rfl,rfl⟩,rfl⟩
    exact ⟨[],_,by simpa using .parentheses derived⟩

private theorem primary_tells : Tells 1 (bound + 1) (primary (bound + 1)) (Is .primary) := by
  intro stream reason rest steady enough failed
  rw [primary,Production.primary,peek_bind] at failed
  cases found : stream.current with
  | none =>
    simp only [found,failAtEnd_run,EStateM.Result.error.injEq] at failed
    exact .inl (failed.2 ▸ exhausted_of_current steady found)
  | some lexeme =>
    obtain ⟨kind,span⟩ := lexeme
    rw [found] at failed
    cases kind with
    | ident text =>
      have again := bind_pure_error.mp failed
      have ok : expectIdent stream = .ok ⟨text,span⟩ stream.step :=
        expectIdent_ok.mpr ⟨found,rfl⟩
      rw [ok] at again
      cases again
    | number digits =>
      apply (number_halts found failed).alike
      intro other shown
      rw [primary,Production.primary,peek_bind,shown.trans found]
    | leftParen =>
      apply (parentheses_halts telling steady (by omega) found failed).alike
      intro other shown
      rw [primary,Production.primary,peek_bind,shown.trans found]
    | eof =>
      obtain ⟨rfl,_⟩ := EStateM.Result.error.inj failed
      refine halts_here found .ending is_primary fun other shown => ⟨other,?_⟩
      rw [primary,Production.primary,peek_bind,shown]
      rfl
    | _ =>
      obtain ⟨rfl,_⟩ := EStateM.Result.error.inj failed
      refine halts_here found (.token (by simp)) is_primary fun other shown => ⟨other,?_⟩
      rw [primary,Production.primary,peek_bind,shown]
      rfl

private theorem telling_succ : Telling (bound + 1) where
  expression := expression_tells telling
  assignee := assignee_tells telling
  object := object_tells telling
  properties := properties_tells telling
  property := property_tells telling
  operations := operations_tells telling
  moreOperations := moreOperations_tells telling
  operation floor left _ _ _ := operation_tells telling floor left
  calls := calls_tells telling
  moreCalls := moreCalls_tells telling
  call := call_tells telling
  arguments := arguments_tells telling
  members := members_tells telling
  moreMembers := moreMembers_tells telling
  member object _ _ _ := member_tells telling object
  primary := primary_tells telling

end

theorem telling (bound : Nat) : Telling bound := by
  induction bound with
  | zero => exact telling_zero
  | succ bound ih => exact telling_succ ih

end Scriptlet.Parser
