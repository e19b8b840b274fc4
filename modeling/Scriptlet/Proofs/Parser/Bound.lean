import Scriptlet.Proofs.Parser.Levels
import Scriptlet.Proofs.Parser.Soundness

/-! The bound on the depth of a parse makes no difference once it is large enough. Between
two tokens at most seven rules open inside each other, so that eight for every token still to
be taken, and a few for the rules already open, are enough: no rule then gets to the lowest
level. -/
namespace Scriptlet.Parser
open Grammar Scriptlet.Stream

variable {α β : Type} {stream middle rest : Stream}

private theorem bind_congr {first again : Parser α} {next later : α → Parser β}
    (same : first stream = again stream)
    (onward : ∀ value middle, again stream = .ok value middle →
      next value middle = later value middle) :
    (first >>= next) stream = (again >>= later) stream := by
  cases outcome : again stream with
  | ok value middle =>
    rw [bind_of_ok (same.trans outcome),bind_of_ok outcome]
    exact onward value middle outcome
  | error reason middle => rw [bind_of_error (same.trans outcome),bind_of_error outcome]

def Settled (cost : Nat) (parser : Nat → Parser α) (bound : Nat) : Prop :=
  ∀ stream other, stream.Steady → 8 * stream.pending + cost ≤ bound →
    8 * stream.pending + cost ≤ other → parser bound stream = parser other stream

theorem Settled.run {cost bound other : Nat} {parser : Nat → Parser α}
    (settled : Settled cost parser bound) (steady : stream.Steady)
    (enough : 8 * stream.pending + cost ≤ bound) (enough' : 8 * stream.pending + cost ≤ other) :
    parser bound stream = parser other stream := settled stream other steady enough enough'

/-- With `cost` rules open, a sufficient number of levels is not used up: it does not matter what
the rules at the lowest level do. -/
def Grounded (cost : Nat) (rule : Level → Parser α) (bound : Nat) : Prop :=
  ∀ lowest stream, stream.Steady → 8 * stream.pending + cost ≤ bound →
    rule (Level.next^[bound] lowest) stream = rule (Level.bounded bound) stream

private theorem grounded_zero {cost : Nat} {rule : Level → Parser α} :
    Grounded (cost + 1) rule 0 := by
  intro lowest stream _ enough
  omega

private theorem grounded_succ {cost bound : Nat} {rule : Level → Parser α}
    (same : ∀ lowest stream, stream.Steady → 8 * stream.pending + cost ≤ bound →
      rule (Level.next^[bound] lowest).next stream = rule (Level.bounded bound).next stream) :
    Grounded (cost + 1) rule (bound + 1) := by
  intro lowest stream steady enough
  rw [Function.iterate_succ_apply',Level.bounded_succ]
  exact same lowest stream steady (by omega)

theorem Grounded.run {cost bound : Nat} {rule : Level → Parser α}
    (grounded : Grounded cost rule bound) {lowest : Level} (steady : stream.Steady)
    (enough : 8 * stream.pending + cost ≤ bound) :
    rule (Level.next^[bound] lowest) stream = rule (Level.bounded bound) stream :=
  grounded lowest stream steady enough

theorem Grounded.settled {cost : Nat} {rule : Level → Parser α}
    (grounded : ∀ bound, Grounded cost rule bound) (bound : Nat) :
    Settled cost (fun bound => rule (Level.bounded bound)) bound := by
  -- The greater bound has the smaller number of levels above what it does at the lowest.
  intro stream other steady here there
  rcases Nat.le_total bound other with less | less
  · obtain ⟨more,rfl⟩ := Nat.exists_eq_add_of_le less
    have same := grounded bound (.bounded more) stream steady here
    rwa [Level.bounded_add,eq_comm] at same
  · obtain ⟨more,rfl⟩ := Nat.exists_eq_add_of_le less
    have same := grounded other (.bounded more) stream steady there
    rwa [Level.bounded_add] at same

def Shorter (rest stream : Stream) : Prop := rest.Steady ∧ rest.pending < stream.pending

theorem Grounded.later {cost opened bound : Nat} {rule : Level → Parser α}
    (grounded : Grounded cost rule bound) {lowest : Level} (shorter : Shorter rest stream)
    (here : 8 * stream.pending + opened ≤ bound) (cheap : cost ≤ opened + 8) :
    rule (Level.next^[bound] lowest) rest = rule (Level.bounded bound) rest := by
  have fewer := shorter.2
  exact grounded.run shorter.1 (by omega)

theorem Shorter.trans (second : Shorter rest middle) (first : Shorter middle stream) :
    Shorter rest stream := ⟨second.1,Nat.lt_trans second.2 first.2⟩

theorem shorter_of_takes {tokens : List Token} (taken : stream.Takes tokens rest)
    (some : tokens ≠ []) : Shorter rest stream := by
  have counted := taken.pending
  have positive := List.length_pos_iff.mpr some
  exact ⟨taken.steady,by omega⟩

theorem shorter_step {lexeme : Lexeme} (steady : stream.Steady)
    (found : stream.current = some lexeme) (inner : lexeme.token ≠ .eof) :
    Shorter stream.step stream := shorter_of_takes (.one steady found inner) (by simp)

private theorem shorter_of_yields {phrase : Phrase} (yielded : Yields stream rest phrase)
    (solid : ∀ trees, phrase ≠ .properties trees) : Shorter rest stream := by
  obtain ⟨tokens,taken,derived⟩ := yielded
  exact shorter_of_takes taken (derived.ne_nil solid)

variable {bound : Nat} {left tree : Expr}

theorem assignee_shorter (steady : stream.Steady) (ok : assignee bound stream = .ok tree rest) :
    Shorter rest stream := shorter_of_yields ((sound bound).assignee steady ok) (by simp)

theorem expression_shorter (steady : stream.Steady)
    (ok : expression bound stream = .ok tree rest) : Shorter rest stream :=
  shorter_of_yields ((sound bound).expression steady ok) (by simp)

theorem property_shorter {tree : Property} (steady : stream.Steady)
    (ok : property bound stream = .ok tree rest) : Shorter rest stream := by
  obtain ⟨tokens,derived,taken | ⟨taken,_⟩⟩ := (sound bound).property steady ok
  · exact shorter_of_takes taken (by simp)
  · exact shorter_of_takes taken (derived.ne_nil (by simp))

private theorem operations_shorter {floor : Precedence} (steady : stream.Steady)
    (ok : operations bound floor stream = .ok tree rest) : Shorter rest stream := by
  have yielded := ((sound bound).operations steady ok).1
  cases floor <;> exact shorter_of_yields yielded (by simp [level])

theorem operation_shorter (steady : stream.Steady)
    (ok : operation bound left stream = .ok tree rest) : Shorter rest stream := by
  cases bound with
  | zero => simp [operation,failAtEnd_run] at ok
  | succ bound =>
    obtain ⟨sign,span,right,found,operand,_⟩ := operation_ok.mp ok
    have stepped := shorter_step steady found (by simp)
    exact (operations_shorter stepped.1 operand).trans stepped

theorem calls_shorter (steady : stream.Steady) (ok : calls bound stream = .ok tree rest) :
    Shorter rest stream := shorter_of_yields ((sound bound).calls steady ok) (by simp)

theorem call_shorter (steady : stream.Steady) (ok : call bound left stream = .ok tree rest) :
    Shorter rest stream := by
  cases bound with
  | zero => simp [call,failAtEnd_run] at ok
  | succ bound =>
    obtain ⟨opening,given,middle,closing,found,inside,closed,rfl,_⟩ := call_ok.mp ok
    have stepped := shorter_step steady found (by simp)
    rcases inside with ⟨_,_,rfl⟩ | ⟨_,inside⟩
    · exact (shorter_step stepped.1 closed (by simp)).trans stepped
    · have inner := shorter_of_yields ((sound bound).arguments stepped.1 inside) (by simp)
      exact (shorter_step inner.1 closed (by simp)).trans (inner.trans stepped)

theorem members_shorter (steady : stream.Steady) (ok : members bound stream = .ok tree rest) :
    Shorter rest stream := shorter_of_yields ((sound bound).members steady ok) (by simp)

theorem member_shorter (steady : stream.Steady) (ok : member bound left stream = .ok tree rest) :
    Shorter rest stream := by
  cases bound with
  | zero => simp [member,failAtEnd_run] at ok
  | succ bound =>
    rcases member_ok.mp ok with ⟨_,_,_,found,named,rfl,_⟩ |
      ⟨_,_,middle,_,found,inside,closed,rfl,_⟩
    · have stepped := shorter_step steady found (by simp)
      exact (shorter_step stepped.1 named (by simp)).trans stepped
    · have stepped := shorter_step steady found (by simp)
      have inner := expression_shorter stepped.1 inside
      exact (shorter_step inner.1 closed (by simp)).trans (inner.trans stepped)

theorem primary_shorter (steady : stream.Steady) (ok : primary bound stream = .ok tree rest) :
    Shorter rest stream := shorter_of_yields ((sound bound).primary steady ok) (by simp)

theorem statement_shorter {content : Statement} (steady : stream.Steady)
    (ok : statement bound stream = .ok content rest) : Shorter rest stream := by
  obtain ⟨tokens,_,taken,sentence⟩ := statement_yields steady ok
  exact shorter_of_takes taken sentence.ne_nil

/-- Every rule is grounded by this bound, each with the rules that may be open below it. -/
structure Enough (bound : Nat) : Prop where
  expression : Grounded 6 Level.expression bound
  assignee : Grounded 5 Level.assignee bound
  object : Grounded 1 Level.object bound
  properties : Grounded 2 Level.properties bound
  property : Grounded 1 Level.property bound
  operations : ∀ floor, Grounded 4 (Level.operations · floor) bound
  moreOperations : ∀ floor left, Grounded 2 (Level.moreOperations · floor left) bound
  operation : ∀ left, Grounded 1 (Level.operation · left) bound
  calls : Grounded 3 Level.calls bound
  moreCalls : ∀ callee, Grounded 2 (Level.moreCalls · callee) bound
  call : ∀ callee, Grounded 1 (Level.call · callee) bound
  arguments : Grounded 7 Level.arguments bound
  members : Grounded 2 Level.members bound
  moreMembers : ∀ object, Grounded 2 (Level.moreMembers · object) bound
  member : ∀ object, Grounded 1 (Level.member · object) bound
  primary : Grounded 1 Level.primary bound
  statements : Grounded 7 Level.statements bound

private theorem enough_zero : Enough 0 := by
  constructor <;> intros <;> exact grounded_zero

section
variable (enough : Enough bound)
include enough

private theorem expression_grounded : Grounded 6 Level.expression (bound + 1) := by
  apply grounded_succ
  intro lowest stream steady here
  dsimp only [Level.next,Production.expression]
  apply bind_congr (enough.assignee.run steady here)
  intro target middle ok
  have shorter := assignee_shorter steady ok
  rw [isAt_bind,isAt_bind]
  split
  · next equals =>
    obtain ⟨_,found⟩ := isAt_iff.mp equals
    have stepped := (shorter_step shorter.1 found (by simp)).trans shorter
    rw [step_bind,step_bind]
    apply bind_congr (enough.expression.later stepped here (by decide))
    intro value rest _
    rfl
  · rfl

private theorem assignee_grounded : Grounded 5 Level.assignee (bound + 1) := by
  apply grounded_succ
  intro lowest stream steady here
  dsimp only [Level.next,Production.assignee]
  rw [isAt_bind,isAt_bind]
  split
  · exact enough.object.run steady (by omega)
  · exact (enough.operations .lowest).run steady here

private theorem object_grounded : Grounded 1 Level.object (bound + 1) := by
  apply grounded_succ
  intro lowest stream steady here
  dsimp only [Level.next,Production.object]
  apply bind_congr rfl
  intro opening middle ok
  obtain ⟨found,rfl⟩ := expectToken_ok.mp ok
  have stepped := shorter_step steady found (by simp)
  apply bind_congr (enough.properties.later stepped here (by decide))
  intro content rest _
  rfl

private theorem properties_grounded : Grounded 2 Level.properties (bound + 1) := by
  apply grounded_succ
  intro lowest stream steady here
  dsimp only [Level.next,Production.properties]
  rw [notEof_bind,notEof_bind,isAt_bind,isAt_bind]
  split
  · apply bind_congr (enough.property.run steady here)
    intro first middle ok
    have shorter := property_shorter steady ok
    apply bind_congr (enough.properties.later shorter here (by decide))
    intro others rest _
    rfl
  · rfl

private theorem property_grounded : Grounded 1 Level.property (bound + 1) := by
  apply grounded_succ
  intro lowest stream steady here
  dsimp only [Level.next,Production.property]
  apply bind_congr rfl
  intro key middle ok
  obtain ⟨named,rfl⟩ := expectIdent_ok.mp ok
  have shorter := shorter_step steady named (by simp)
  rw [isAt_bind,isAt_bind]
  split
  · rfl
  · rw [isAt_bind,isAt_bind]
    split
    · rfl
    · apply bind_congr rfl
      intro place middle ok
      obtain ⟨colon,rfl⟩ := expectToken_ok.mp ok
      have stepped := (shorter_step shorter.1 colon (by simp)).trans shorter
      apply bind_congr (enough.expression.later stepped here (by decide))
      intro value rest _
      rfl

private theorem operations_grounded (floor : Precedence) :
    Grounded 4 (Level.operations · floor) (bound + 1) := by
  apply grounded_succ
  intro lowest stream steady here
  dsimp only [Level.next,Production.operations]
  apply bind_congr (enough.calls.run steady here)
  intro left middle ok
  exact (enough.moreOperations floor left).later (calls_shorter steady ok) here (by decide)

private theorem moreOperations_grounded (floor : Precedence) (left : Expr) :
    Grounded 2 (Level.moreOperations · floor left) (bound + 1) := by
  apply grounded_succ
  intro lowest stream steady here
  dsimp only [Level.next,Production.moreOperations]
  rw [precedence_bind,precedence_bind]
  split
  · apply bind_congr ((enough.operation left).run steady here)
    intro whole middle ok
    exact (enough.moreOperations floor whole).later (operation_shorter steady ok) here (by decide)
  · rfl

private theorem operation_grounded (left : Expr) :
    Grounded 1 (Level.operation · left) (bound + 1) := by
  apply grounded_succ
  intro lowest stream steady here
  dsimp only [Level.next,Production.operation]
  rw [precedence_bind,precedence_bind]
  apply bind_congr rfl
  intro sign middle ok
  obtain ⟨span,found,rfl⟩ := operator_ok.mp ok
  have stepped := shorter_step steady found (by simp)
  apply bind_congr ((enough.operations _).later stepped here (by decide))
  intro right rest _
  rfl

private theorem calls_grounded : Grounded 3 Level.calls (bound + 1) := by
  apply grounded_succ
  intro lowest stream steady here
  dsimp only [Level.next,Production.calls]
  apply bind_congr (enough.members.run steady here)
  intro callee middle ok
  exact (enough.moreCalls callee).later (members_shorter steady ok) here (by decide)

private theorem moreCalls_grounded (callee : Expr) :
    Grounded 2 (Level.moreCalls · callee) (bound + 1) := by
  apply grounded_succ
  intro lowest stream steady here
  dsimp only [Level.next,Production.moreCalls]
  rw [isAt_bind,isAt_bind]
  split
  · apply bind_congr ((enough.call callee).run steady here)
    intro whole middle ok
    exact (enough.moreCalls whole).later (call_shorter steady ok) here (by decide)
  · rfl

private theorem call_grounded (callee : Expr) : Grounded 1 (Level.call · callee) (bound + 1) := by
  apply grounded_succ
  intro lowest stream steady here
  dsimp only [Level.next,Production.call]
  apply bind_congr rfl
  intro opening middle ok
  obtain ⟨found,rfl⟩ := expectToken_ok.mp ok
  have stepped := shorter_step steady found (by simp)
  rw [isAt_bind,isAt_bind]
  split
  · rfl
  · apply bind_congr (enough.arguments.later stepped here (by decide))
    intro given rest _
    rfl

private theorem arguments_grounded : Grounded 7 Level.arguments (bound + 1) := by
  apply grounded_succ
  intro lowest stream steady here
  dsimp only [Level.next,Production.arguments]
  apply bind_congr (enough.expression.run steady here)
  intro first middle ok
  have shorter := expression_shorter steady ok
  rw [isAt_bind,isAt_bind]
  split
  · next comma =>
    obtain ⟨_,found⟩ := isAt_iff.mp comma
    have stepped := (shorter_step shorter.1 found (by simp)).trans shorter
    rw [step_bind,step_bind]
    apply bind_congr (enough.arguments.later stepped here (by decide))
    intro others rest _
    rfl
  · rfl

private theorem members_grounded : Grounded 2 Level.members (bound + 1) := by
  apply grounded_succ
  intro lowest stream steady here
  dsimp only [Level.next,Production.members]
  apply bind_congr (enough.primary.run steady here)
  intro object middle ok
  exact (enough.moreMembers object).later (primary_shorter steady ok) here (by decide)

private theorem moreMembers_grounded (object : Expr) :
    Grounded 2 (Level.moreMembers · object) (bound + 1) := by
  apply grounded_succ
  intro lowest stream steady here
  dsimp only [Level.next,Production.moreMembers]
  rw [isAt_bind,isAt_bind,isAt_bind,isAt_bind]
  split
  · apply bind_congr ((enough.member object).run steady here)
    intro whole middle ok
    exact (enough.moreMembers whole).later (member_shorter steady ok) here (by decide)
  · rfl

private theorem member_grounded (object : Expr) :
    Grounded 1 (Level.member · object) (bound + 1) := by
  apply grounded_succ
  intro lowest stream steady here
  dsimp only [Level.next,Production.member]
  rw [take_bind,take_bind]
  cases found : stream.current with
  | none => rfl
  | some lexeme =>
    obtain ⟨kind,span⟩ := lexeme
    cases kind with
    | leftBracket =>
      have stepped := shorter_step steady found (by simp)
      apply bind_congr (enough.expression.later stepped here (by decide))
      intro key rest _
      rfl
    | _ => rfl

private theorem primary_grounded : Grounded 1 Level.primary (bound + 1) := by
  apply grounded_succ
  intro lowest stream steady here
  dsimp only [Level.next,Production.primary]
  rw [peek_bind,peek_bind]
  cases found : stream.current with
  | none => rfl
  | some lexeme =>
    obtain ⟨kind,span⟩ := lexeme
    cases kind with
    | leftParen =>
      have stepped := shorter_step steady found (by simp)
      dsimp only
      rw [step_bind,step_bind]
      apply bind_congr (enough.expression.later stepped here (by decide))
      intro inner rest _
      rfl
    | _ => rfl

/-! Statements have one expression each, of their own level. -/

private theorem declaration_grounded {lowest : Level} {opening : Lexeme} (steady : stream.Steady)
    (found : stream.current = some opening) (inner : opening.token ≠ .eof)
    (here : 8 * stream.pending + 6 ≤ bound) :
    (Level.next^[bound] lowest).declaration stream =
      (Level.bounded bound).declaration stream := by
  unfold Level.declaration Production.declaration
  rw [take_bind,take_bind,found]
  have opened := shorter_step steady found inner
  apply bind_congr rfl
  intro identifier middle ok
  obtain ⟨named,rfl⟩ := expectIdent_ok.mp ok
  have shorter := (shorter_step opened.1 named (by simp)).trans opened
  rw [isAt_bind,isAt_bind]
  split
  · rfl
  · apply bind_congr rfl
    intro place middle ok
    obtain ⟨equals,rfl⟩ := expectToken_ok.mp ok
    have stepped := (shorter_step shorter.1 equals (by simp)).trans shorter
    apply bind_congr (enough.expression.later stepped here (by decide))
    intro value rest _
    rfl

private theorem statement_grounded : Grounded 6 Level.statement bound := by
  intro lowest stream steady here
  unfold Level.statement Production.statement
  rw [peek_bind,peek_bind]
  cases found : stream.current with
  | none => rfl
  | some lexeme =>
    dsimp only
    split
    · next reserved =>
      apply bind_congr (declaration_grounded enough steady found (reserved_ne_eof reserved) here)
      intro content rest _
      rfl
    · apply bind_congr (enough.expression.run steady here)
      intro content middle _
      rfl

private theorem statements_grounded : Grounded 7 Level.statements (bound + 1) := by
  apply grounded_succ
  intro lowest stream steady here
  dsimp only [Level.next,Production.statements]
  rw [notEof_bind,notEof_bind]
  split
  · apply bind_congr ((statement_grounded enough).run steady here)
    intro first middle ok
    apply bind_congr (enough.statements.later (statement_shorter steady ok) here (by decide))
    intro others rest _
    rfl
  · rfl

private theorem enough_succ : Enough (bound + 1) where
  expression := expression_grounded enough
  assignee := assignee_grounded enough
  object := object_grounded enough
  properties := properties_grounded enough
  property := property_grounded enough
  operations := operations_grounded enough
  moreOperations := moreOperations_grounded enough
  operation := operation_grounded enough
  calls := calls_grounded enough
  moreCalls := moreCalls_grounded enough
  call := call_grounded enough
  arguments := arguments_grounded enough
  members := members_grounded enough
  moreMembers := moreMembers_grounded enough
  member := member_grounded enough
  primary := primary_grounded enough
  statements := statements_grounded enough

end

theorem enough (bound : Nat) : Enough bound := by
  induction bound with
  | zero => exact enough_zero
  | succ bound ih => exact enough_succ ih

theorem program_grounded (bound : Nat) : Grounded 7 Level.program bound := by
  intro lowest stream steady here
  unfold Level.program Production.program
  apply bind_congr ((enough bound).statements.run steady here)
  intro content rest _
  rfl

theorem statement_settled : Settled 6 statement bound :=
  Grounded.settled (fun bound => statement_grounded (enough bound)) bound

theorem statements_settled : Settled 7 statements bound :=
  Grounded.settled (fun bound => (enough bound).statements) bound

private theorem program_settled : Settled 7 program bound := Grounded.settled program_grounded bound

theorem pending_le_bound : 8 * stream.pending + 7 ≤ stream.bound := by
  have fewer := stream.pending_le_length
  rw [Stream.bound]
  omega

/-- A whole program is parsed the same under every sufficient bound. -/
theorem run_program_eq (steady : stream.Steady) (there : 8 * stream.pending + 7 ≤ bound) :
    run program stream = program bound stream :=
  program_settled.run steady pending_le_bound there

end Scriptlet.Parser
