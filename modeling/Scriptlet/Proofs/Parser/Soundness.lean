import Scriptlet.Proofs.Grammar
import Scriptlet.Proofs.Parser.Steps
import Scriptlet.Proofs.Parser.Takes

/-! Every successful parse takes the tokens of a phrase and returns the tree of that phrase.
The induction is on the bound; one lemma stands for each rule, and the loops are followed from
the phrase they extend. -/
namespace Scriptlet.Parser
open Grammar Scriptlet.Stream

/-- The tokens between two streams are a phrase. -/
def Yields (stream rest : Stream) (phrase : Phrase) : Prop :=
  ∃ tokens, stream.Takes tokens rest ∧ Derives tokens phrase

/-- The tokens between two streams make a larger phrase out of one that stands before them. -/
def Extends (stream rest : Stream) (left whole : Phrase) : Prop :=
  ∃ tokens, stream.Takes tokens rest ∧
    ∀ before, Derives before left → Derives (before ++ tokens) whole

variable {stream middle rest : Stream} {left whole larger : Phrase}

theorem Yields.steady (yielded : Yields stream rest whole) : rest.Steady := by
  obtain ⟨_,taken,_⟩ := yielded
  exact taken.steady

theorem Yields.mono (yielded : Yields stream rest left)
    (wider : ∀ tokens, Derives tokens left → Derives tokens whole) : Yields stream rest whole := by
  obtain ⟨tokens,taken,derived⟩ := yielded
  exact ⟨tokens,taken,wider tokens derived⟩

theorem Extends.steady (extended : Extends stream rest left whole) : rest.Steady := by
  obtain ⟨_,taken,_⟩ := extended
  exact taken.steady

theorem Extends.refl (steady : stream.Steady)
    (wider : ∀ tokens, Derives tokens left → Derives tokens whole) :
    Extends stream stream left whole :=
  ⟨[],.refl steady,fun before derived => by simpa using wider before derived⟩

theorem Extends.trans (first : Extends stream middle left whole)
    (second : Extends middle rest whole larger) : Extends stream rest left larger := by
  obtain ⟨before,taken,grown⟩ := first
  obtain ⟨after,takenAfter,grownAfter⟩ := second
  refine ⟨before ++ after,taken.trans takenAfter,?_⟩
  intro start derived
  rw [← List.append_assoc]
  exact grownAfter _ (grown _ derived)

private theorem Yields.extend (yielded : Yields stream middle left)
    (extended : Extends middle rest left whole) : Yields stream rest whole := by
  obtain ⟨before,taken,derived⟩ := yielded
  obtain ⟨after,takenAfter,grown⟩ := extended
  exact ⟨before ++ after,taken.trans takenAfter,grown before derived⟩

def level : Precedence → Expr → Phrase
  | .lowest => .additive
  | .sum => .multiplicative
  | .product => .callMember

def YieldsProperty (stream rest : Stream) (tree : Property) : Prop :=
  ∃ tokens, Derives tokens (.property tree) ∧
    (stream.Takes (tokens ++ [.comma]) rest ∨
      (stream.Takes tokens rest ∧ rest.isAt .rightBrace = true))

/-- The parsers with this bound return only trees of phrases. A sum goes on after a product
or, unless a product goes on, after a sum. -/
structure Sound (bound : Nat) : Prop where
  expression : ∀ {stream rest tree}, stream.Steady →
    Parser.expression bound stream = .ok tree rest → Yields stream rest (.expression tree.erase)
  assignee : ∀ {stream rest tree}, stream.Steady →
    Parser.assignee bound stream = .ok tree rest → Yields stream rest (.assignee tree.erase)
  object : ∀ {stream rest tree}, stream.Steady →
    Parser.object bound stream = .ok tree rest → Yields stream rest (.assignee tree.erase)
  properties : ∀ {stream rest trees}, stream.Steady →
    Parser.properties bound stream = .ok trees rest →
      Yields stream rest (.properties (trees.map Property.erase))
  property : ∀ {stream rest tree}, stream.Steady →
    Parser.property bound stream = .ok tree rest → YieldsProperty stream rest tree.erase
  operations : ∀ {stream rest tree floor}, stream.Steady →
    Parser.operations bound floor stream = .ok tree rest →
      Yields stream rest (level floor tree.erase) ∧ rest.precedence.rank ≤ floor.rank
  products : ∀ {stream rest left tree}, stream.Steady →
    Parser.moreOperations bound .sum left stream = .ok tree rest →
      Extends stream rest (.multiplicative left.erase) (.multiplicative tree.erase) ∧
        rest.precedence.rank ≤ Precedence.sum.rank
  sums : ∀ {stream rest left tree}, stream.Steady →
    Parser.moreOperations bound .lowest left stream = .ok tree rest →
      Extends stream rest (.multiplicative left.erase) (.additive tree.erase) ∧
        (stream.precedence ≠ .product →
          Extends stream rest (.additive left.erase) (.additive tree.erase)) ∧
        rest.precedence.rank ≤ Precedence.lowest.rank
  operation : ∀ {stream rest left tree}, stream.Steady →
    Parser.operation bound left stream = .ok tree rest →
      (stream.precedence = .sum ∧ rest.precedence.rank ≤ Precedence.sum.rank ∧
        Extends stream rest (.additive left.erase) (.additive tree.erase)) ∨
      (stream.precedence = .product ∧
        Extends stream rest (.multiplicative left.erase) (.multiplicative tree.erase))
  calls : ∀ {stream rest tree}, stream.Steady →
    Parser.calls bound stream = .ok tree rest → Yields stream rest (.callMember tree.erase)
  moreCalls : ∀ {stream rest callee tree}, stream.Steady →
    Parser.moreCalls bound callee stream = .ok tree rest →
      Extends stream rest (.callMember callee.erase) (.callMember tree.erase)
  call : ∀ {stream rest callee tree}, stream.Steady →
    Parser.call bound callee stream = .ok tree rest →
      Extends stream rest (.callMember callee.erase) (.callMember tree.erase)
  arguments : ∀ {stream rest trees}, stream.Steady →
    Parser.arguments bound stream = .ok trees rest →
      Yields stream rest (.arguments (trees.map Expr.erase))
  members : ∀ {stream rest tree}, stream.Steady →
    Parser.members bound stream = .ok tree rest → Yields stream rest (.member tree.erase)
  moreMembers : ∀ {stream rest object tree}, stream.Steady →
    Parser.moreMembers bound object stream = .ok tree rest →
      Extends stream rest (.member object.erase) (.member tree.erase)
  member : ∀ {stream rest object tree}, stream.Steady →
    Parser.member bound object stream = .ok tree rest →
      Extends stream rest (.member object.erase) (.member tree.erase)
  primary : ∀ {stream rest tree}, stream.Steady →
    Parser.primary bound stream = .ok tree rest → Yields stream rest (.primary tree.erase)

private theorem sound_zero : Sound 0 := by
  constructor <;> intros <;> simp_all [expression,assignee,object,properties,property,operations,
    moreOperations,operation,calls,moreCalls,call,arguments,members,moreMembers,member,primary,
    failAtEnd_run]

variable {bound : Nat} {tree : Expr}

private theorem expression_yields (sound : Sound bound) (steady : stream.Steady)
    (ok : expression (bound + 1) stream = .ok tree rest) :
    Yields stream rest (.expression tree.erase) := by
  obtain ⟨target,middle,first,alone | assigned⟩ := expression_ok.mp ok
  · obtain ⟨_,rfl,rfl⟩ := alone
    exact (sound.assignee steady first).mono fun _ => .plain
  · obtain ⟨equals,value,second,rfl⟩ := assigned
    obtain ⟨_,found⟩ := isAt_iff.mp equals
    obtain ⟨before,taken,derived⟩ := sound.assignee steady first
    have stepped := Takes.one taken.steady found (by simp)
    obtain ⟨after,takenAfter,derivedAfter⟩ := sound.expression stepped.steady second
    refine ⟨before ++ .equals :: after,taken.trans (stepped.trans takenAfter),?_⟩
    rw [Expr.erase_assign]
    exact .assign derived derivedAfter

private theorem assignee_yields (sound : Sound bound) (steady : stream.Steady)
    (ok : assignee (bound + 1) stream = .ok tree rest) :
    Yields stream rest (.assignee tree.erase) := by
  rw [assignee_run] at ok
  split at ok
  · exact sound.object steady ok
  · exact (sound.operations steady ok).1.mono fun _ => .operations

private theorem object_yields (sound : Sound bound) (steady : stream.Steady)
    (ok : object (bound + 1) stream = .ok tree rest) :
    Yields stream rest (.assignee tree.erase) := by
  obtain ⟨opening,content,middle,closing,found,inside,closed,rfl,rfl⟩ := object_ok.mp ok
  have opened := Takes.one steady found (by simp)
  obtain ⟨tokens,taken,derived⟩ := sound.properties opened.steady inside
  have ended := Takes.one taken.steady closed (by simp)
  refine ⟨.leftBrace :: tokens ++ [.rightBrace],(opened.trans taken).trans ended,?_⟩
  rw [Expr.erase_object]
  exact .object derived

private theorem properties_yields (sound : Sound bound) {trees : List Property}
    (steady : stream.Steady)
    (ok : properties (bound + 1) stream = .ok trees rest) :
    Yields stream rest (.properties (trees.map Property.erase)) := by
  rcases properties_ok.mp ok with ⟨_,rfl,rfl⟩ | ⟨_,_,first,middle,others,head,tail,rfl⟩
  · exact ⟨[],.refl steady,.noProperties⟩
  · obtain ⟨tokens,derived,taken | ⟨taken,brace⟩⟩ := sound.property steady head
    · obtain ⟨after,takenAfter,derivedAfter⟩ := sound.properties taken.steady tail
      refine ⟨tokens ++ .comma :: after,?_,.moreProperties derived derivedAfter⟩
      simpa using taken.trans takenAfter
    · -- At the closing brace the list of properties is over.
      obtain ⟨rfl,rfl⟩ : others = [] ∧ middle = rest := by
        cases bound with
        | zero => simp [properties,failAtEnd_run] at tail
        | succ bound =>
          rcases properties_ok.mp tail with ⟨_,rfl,rfl⟩ | ⟨_,open_,_⟩
          · exact ⟨rfl,rfl⟩
          · simp [brace] at open_
      exact ⟨tokens,taken,.lastProperty derived⟩

private theorem property_yields (sound : Sound bound) {tree : Property} (steady : stream.Steady)
    (ok : property (bound + 1) stream = .ok tree rest) :
    YieldsProperty stream rest tree.erase := by
  obtain ⟨name,span,found,short | short | valued⟩ := property_ok.mp ok
  · obtain ⟨comma,rfl,rfl⟩ := short
    obtain ⟨_,found'⟩ := isAt_iff.mp comma
    have named := Takes.one steady found (by simp)
    rw [Property.erase_shorthand]
    exact ⟨[.ident name],.shorthand,.inl (named.trans (.one named.steady found' (by simp)))⟩
  · obtain ⟨brace,rfl,rfl⟩ := short
    rw [Property.erase_shorthand]
    exact ⟨[.ident name],.shorthand,.inr ⟨.one steady found (by simp),brace⟩⟩
  · obtain ⟨place,value,middle,colon,inside,rfl,ending⟩ := valued
    have named := Takes.one steady found (by simp)
    have marked := named.trans (.one named.steady colon (by simp))
    obtain ⟨tokens,taken,derived⟩ := sound.expression marked.steady inside
    rw [Property.erase_valued]
    refine ⟨.ident name :: .colon :: tokens,.valued derived,?_⟩
    rcases ending with ⟨brace,rfl⟩ | ⟨comma,rfl⟩
    · exact .inr ⟨marked.trans taken,brace⟩
    · obtain ⟨_,found'⟩ := isAt_iff.mp comma
      exact .inl ((marked.trans taken).trans (.one taken.steady found' (by simp)))

theorem moreOperations_product {left : Expr}
    (ok : moreOperations bound .product left stream = .ok tree rest) :
    tree = left ∧ stream = rest ∧ rest.precedence.rank ≤ Precedence.product.rank := by
  have least (found : Stream) : found.precedence.rank ≤ Precedence.product.rank := by
    cases found.precedence <;> simp [Precedence.rank]
  cases bound with
  | zero => simp [moreOperations,failAtEnd_run] at ok
  | succ bound =>
    rcases moreOperations_ok.mp ok with ⟨_,same,done⟩ | ⟨tighter,_⟩
    · exact ⟨same,done,least rest⟩
    · have := least stream
      omega

private theorem operations_yields (sound : Sound bound) {floor : Precedence}
    (steady : stream.Steady)
    (ok : operations (bound + 1) floor stream = .ok tree rest) :
    Yields stream rest (level floor tree.erase) ∧ rest.precedence.rank ≤ floor.rank := by
  obtain ⟨left,middle,first,more⟩ := operations_ok.mp ok
  have operand := sound.calls steady first
  cases floor with
  | lowest =>
    obtain ⟨extended,_,stopped⟩ := sound.sums operand.steady more
    exact ⟨(operand.mono fun _ => .factor).extend extended,stopped⟩
  | sum =>
    obtain ⟨extended,stopped⟩ := sound.products operand.steady more
    exact ⟨(operand.mono fun _ => .factor).extend extended,stopped⟩
  | product =>
    obtain ⟨rfl,rfl,stopped⟩ := moreOperations_product more
    exact ⟨operand,stopped⟩

private theorem operation_extends (sound : Sound bound) {left : Expr} (steady : stream.Steady)
    (ok : operation (bound + 1) left stream = .ok tree rest) :
    (stream.precedence = .sum ∧ rest.precedence.rank ≤ Precedence.sum.rank ∧
      Extends stream rest (.additive left.erase) (.additive tree.erase)) ∨
    (stream.precedence = .product ∧
      Extends stream rest (.multiplicative left.erase) (.multiplicative tree.erase)) := by
  obtain ⟨sign,span,right,found,operand,rfl⟩ := operation_ok.mp ok
  have signed := Takes.one steady found (by simp)
  have strength := precedence_of_current found
  obtain ⟨⟨tokens,taken,derived⟩,stopped⟩ := sound.operations signed.steady operand
  rw [Expr.erase_binary]
  cases additive : sign.isAdditive with
  | true =>
    simp only [Precedence.ofToken,additive,if_true] at strength
    simp only [strength,level] at derived stopped
    refine .inl ⟨strength,stopped,.operator sign :: tokens,signed.trans taken,?_⟩
    intro before derivedBefore
    exact .sum additive derivedBefore derived
  | false =>
    simp only [Precedence.ofToken,additive,Bool.false_eq_true,if_false] at strength
    simp only [strength,level] at derived
    refine .inr ⟨strength,.operator sign :: tokens,signed.trans taken,?_⟩
    intro before derivedBefore
    exact .times (by simp [Operator.isMultiplicative,additive]) derivedBefore derived

private theorem products_extend (sound : Sound bound) {left : Expr} (steady : stream.Steady)
    (ok : moreOperations (bound + 1) .sum left stream = .ok tree rest) :
    Extends stream rest (.multiplicative left.erase) (.multiplicative tree.erase) ∧
      rest.precedence.rank ≤ Precedence.sum.rank := by
  rcases moreOperations_ok.mp ok with ⟨looser,rfl,rfl⟩ | ⟨tighter,whole,middle,first,more⟩
  · exact ⟨.refl steady fun _ => id,Nat.le_of_not_lt looser⟩
  · rcases sound.operation steady first with ⟨strength,_⟩ | ⟨_,extended⟩
    · simp [strength] at tighter
    · obtain ⟨later,stopped⟩ := sound.products extended.steady more
      exact ⟨extended.trans later,stopped⟩

private theorem sums_extend (sound : Sound bound) {left : Expr} (steady : stream.Steady)
    (ok : moreOperations (bound + 1) .lowest left stream = .ok tree rest) :
    Extends stream rest (.multiplicative left.erase) (.additive tree.erase) ∧
      (stream.precedence ≠ .product →
        Extends stream rest (.additive left.erase) (.additive tree.erase)) ∧
      rest.precedence.rank ≤ Precedence.lowest.rank := by
  rcases moreOperations_ok.mp ok with ⟨looser,rfl,rfl⟩ | ⟨_,whole,middle,first,more⟩
  · exact ⟨.refl steady fun _ => .product,fun _ => .refl steady fun _ => id,
      Nat.le_of_not_lt looser⟩
  · rcases sound.operation steady first with ⟨strength,limit,extended⟩ | ⟨strength,extended⟩
    · -- The right operand has taken every product, so that the loop goes on with sums.
      obtain ⟨_,later,stopped⟩ := sound.sums extended.steady more
      have onward := later (by intro product; simp [product,Precedence.rank] at limit)
      have promoted : Extends stream middle (.multiplicative left.erase) (.additive whole.erase) :=
        (Extends.refl steady fun _ => .product).trans extended
      exact ⟨promoted.trans onward,fun _ => extended.trans onward,stopped⟩
    · obtain ⟨later,_,stopped⟩ := sound.sums extended.steady more
      exact ⟨extended.trans later,fun other => (other strength).elim,stopped⟩

private theorem calls_yields (sound : Sound bound) (steady : stream.Steady)
    (ok : calls (bound + 1) stream = .ok tree rest) :
    Yields stream rest (.callMember tree.erase) := by
  obtain ⟨callee,middle,first,more⟩ := calls_ok.mp ok
  have operand := (sound.members steady first).mono fun _ => .noCall
  exact operand.extend (sound.moreCalls operand.steady more)

private theorem moreCalls_extends (sound : Sound bound) {callee : Expr} (steady : stream.Steady)
    (ok : moreCalls (bound + 1) callee stream = .ok tree rest) :
    Extends stream rest (.callMember callee.erase) (.callMember tree.erase) := by
  rcases moreCalls_ok.mp ok with ⟨_,rfl,rfl⟩ | ⟨_,whole,middle,first,more⟩
  · exact .refl steady fun _ => id
  · have extended := sound.call steady first
    exact extended.trans (sound.moreCalls extended.steady more)

private theorem call_extends (sound : Sound bound) {callee : Expr} (steady : stream.Steady)
    (ok : call (bound + 1) callee stream = .ok tree rest) :
    Extends stream rest (.callMember callee.erase) (.callMember tree.erase) := by
  obtain ⟨opening,given,middle,closing,found,inside,closed,rfl,rfl⟩ := call_ok.mp ok
  have opened := Takes.one steady found (by simp)
  rw [Expr.erase_call]
  rcases inside with ⟨_,rfl,rfl⟩ | ⟨_,inside⟩
  · have ended := Takes.one opened.steady closed (by simp)
    exact ⟨[.leftParen,.rightParen],opened.trans ended,fun _ derived => .emptyCall derived⟩
  · obtain ⟨tokens,taken,derived⟩ := sound.arguments opened.steady inside
    have ended := Takes.one taken.steady closed (by simp)
    refine ⟨.leftParen :: tokens ++ [.rightParen],(opened.trans taken).trans ended,?_⟩
    intro before called
    simpa using Derives.call called derived

private theorem arguments_yields (sound : Sound bound) {trees : List Expr} (steady : stream.Steady)
    (ok : arguments (bound + 1) stream = .ok trees rest) :
    Yields stream rest (.arguments (trees.map Expr.erase)) := by
  obtain ⟨first,middle,head,alone | more⟩ := arguments_ok.mp ok
  · obtain ⟨_,rfl,rfl⟩ := alone
    exact (sound.expression steady head).mono fun _ => .lastArgument
  · obtain ⟨comma,others,tail,rfl⟩ := more
    obtain ⟨_,found⟩ := isAt_iff.mp comma
    obtain ⟨before,taken,derived⟩ := sound.expression steady head
    have stepped := Takes.one taken.steady found (by simp)
    obtain ⟨after,takenAfter,derivedAfter⟩ := sound.arguments stepped.steady tail
    exact ⟨before ++ .comma :: after,taken.trans (stepped.trans takenAfter),
      .moreArguments derived derivedAfter⟩

private theorem members_yields (sound : Sound bound) (steady : stream.Steady)
    (ok : members (bound + 1) stream = .ok tree rest) :
    Yields stream rest (.member tree.erase) := by
  obtain ⟨object,middle,first,more⟩ := members_ok.mp ok
  have operand := (sound.primary steady first).mono fun _ => .noMember
  exact operand.extend (sound.moreMembers operand.steady more)

private theorem moreMembers_extends (sound : Sound bound) {object : Expr} (steady : stream.Steady)
    (ok : moreMembers (bound + 1) object stream = .ok tree rest) :
    Extends stream rest (.member object.erase) (.member tree.erase) := by
  rcases moreMembers_ok.mp ok with ⟨_,rfl,rfl⟩ | ⟨_,whole,middle,first,more⟩
  · exact .refl steady fun _ => id
  · have extended := sound.member steady first
    exact extended.trans (sound.moreMembers extended.steady more)

private theorem member_extends (sound : Sound bound) {object : Expr} (steady : stream.Steady)
    (ok : member (bound + 1) object stream = .ok tree rest) :
    Extends stream rest (.member object.erase) (.member tree.erase) := by
  rcases member_ok.mp ok with ⟨place,name,span,found,named,rfl,rfl⟩ |
    ⟨place,key,middle,closing,found,inside,closed,rfl,rfl⟩
  · have dotted := Takes.one steady found (by simp)
    rw [Expr.erase_member]
    exact ⟨[.dot,.ident name],dotted.trans (.one dotted.steady named (by simp)),
      fun _ derived => .named derived⟩
  · have opened := Takes.one steady found (by simp)
    obtain ⟨tokens,taken,derived⟩ := sound.expression opened.steady inside
    have ended := Takes.one taken.steady closed (by simp)
    rw [Expr.erase_index]
    refine ⟨.leftBracket :: tokens ++ [.rightBracket],(opened.trans taken).trans ended,?_⟩
    intro before held
    simpa using Derives.computed held derived

private theorem primary_yields (sound : Sound bound) (steady : stream.Steady)
    (ok : primary (bound + 1) stream = .ok tree rest) :
    Yields stream rest (.primary tree.erase) := by
  rcases primary_ok.mp ok with ⟨name,span,found,rfl,rfl⟩ |
    ⟨digits,span,value,found,read,rfl,rfl⟩ | ⟨opening,middle,closing,found,inside,closed,rfl⟩
  · rw [Expr.erase_identifier]
    exact ⟨[.ident name],.one steady found (by simp),.identifier⟩
  · rw [Expr.erase_number]
    exact ⟨[.number digits],.one steady found (by simp),.number read⟩
  · have opened := Takes.one steady found (by simp)
    obtain ⟨tokens,taken,derived⟩ := sound.expression opened.steady inside
    have ended := Takes.one taken.steady closed (by simp)
    exact ⟨.leftParen :: tokens ++ [.rightParen],(opened.trans taken).trans ended,
      .parentheses derived⟩

private theorem sound_succ (sound : Sound bound) : Sound (bound + 1) where
  expression := expression_yields sound
  assignee := assignee_yields sound
  object := object_yields sound
  properties := properties_yields sound
  property := property_yields sound
  operations := operations_yields sound
  products := products_extend sound
  sums := sums_extend sound
  operation := operation_extends sound
  calls := calls_yields sound
  moreCalls := moreCalls_extends sound
  call := call_extends sound
  arguments := arguments_yields sound
  members := members_yields sound
  moreMembers := moreMembers_extends sound
  member := member_extends sound
  primary := primary_yields sound

/-- Whatever the bound, a successful parse returns the tree of the tokens it took. -/
theorem sound (bound : Nat) : Sound bound := by
  induction bound with
  | zero => exact sound_zero
  | succ bound ih => exact sound_succ ih

/-! Statements. -/

theorem reserved_ne_eof {token : Token} (reserved : token.isReserved = true) :
    token ≠ .eof := by
  intro final
  simp [final,Token.isReserved] at reserved

private theorem letWord_of_reserved {token : Token} (reserved : token.isReserved = true)
    (other : token ≠ .constWord) : token = .letWord := by
  simpa [Token.isReserved,other] using reserved

theorem declaration_yields {opening : Lexeme} {content : Declaration} (steady : stream.Steady)
    (found : stream.current = some opening) (reserved : opening.token.isReserved = true)
    (ok : declaration bound stream = .ok content rest) :
    ∃ tokens, stream.Takes tokens rest ∧
      Sentence tokens (Statement.declaration content).erase true := by
  obtain ⟨again,name,span,foundAgain,named,form⟩ := declaration_ok.mp ok
  obtain rfl : opening = again := Option.some.inj (found.symm.trans foundAgain)
  have opened := Takes.one steady found (reserved_ne_eof reserved)
  have introduced := opened.trans (.one opened.steady named (by simp))
  rcases form with ⟨closing,other,closed,rfl,rfl⟩ |
    ⟨place,value,middle,closing,equals,inside,closed,rfl,rfl⟩
  · have word := letWord_of_reserved reserved other
    have ended := introduced.trans (.one introduced.steady closed (by simp))
    rw [Statement.erase_declaration]
    refine ⟨[.letWord,.ident name,.semicolon],?_,.uninitialised⟩
    rw [word] at ended
    exact ended
  · have started := introduced.trans (.one introduced.steady equals (by simp))
    obtain ⟨tokens,taken,derived⟩ := (sound bound).expression started.steady inside
    have ended := Takes.one taken.steady closed (by simp)
    rw [Statement.erase_declaration]
    exact ⟨opening.token :: .ident name :: .equals :: tokens ++ [.semicolon],
      (started.trans taken).trans ended,.initialised reserved derived⟩

theorem statement_yields {content : Statement} (steady : stream.Steady)
    (ok : statement bound stream = .ok content rest) :
    ∃ tokens ended, stream.Takes tokens rest ∧ Sentence tokens content.erase ended := by
  obtain ⟨lexeme,found,declared | expressed⟩ := statement_ok.mp ok
  · obtain ⟨reserved,declaration,inside,rfl⟩ := declared
    obtain ⟨tokens,taken,sentence⟩ := declaration_yields steady found reserved inside
    exact ⟨tokens,true,taken,sentence⟩
  · obtain ⟨_,tree,middle,inside,rfl,done⟩ := expressed
    obtain ⟨tokens,taken,derived⟩ := (sound bound).expression steady inside
    rw [Statement.erase_expression]
    split at done
    · next closed =>
      obtain ⟨_,semicolon⟩ := isAt_iff.mp closed
      subst done
      exact ⟨tokens ++ [.semicolon],true,taken.trans (.one taken.steady semicolon (by simp)),
        .ended derived⟩
    · subst done
      exact ⟨tokens,false,taken,.unended derived⟩

/-- The statements of a program reach up to the end token or the end of the stream. -/
theorem statements_yields {trees : List Statement} (steady : stream.Steady)
    (ok : statements bound stream = .ok trees rest) :
    ∃ tokens, stream.Takes tokens rest ∧
      Sentences false tokens (trees.map Statement.erase) ∧ rest.notEof = false := by
  induction bound generalizing stream trees with
  | zero => simp [statements,failAtEnd_run] at ok
  | succ bound ih =>
    rcases statements_ok.mp ok with ⟨ended,rfl,rfl⟩ | ⟨_,first,middle,others,head,tail,rfl⟩
    · exact ⟨[],.refl steady,.none,ended⟩
    · obtain ⟨before,_,taken,sentence⟩ := statement_yields steady head
      obtain ⟨after,takenAfter,sentences,ended⟩ := ih taken.steady tail
      exact ⟨before ++ after,taken.trans takenAfter,.more sentence (by simp) sentences,ended⟩

end Scriptlet.Parser
