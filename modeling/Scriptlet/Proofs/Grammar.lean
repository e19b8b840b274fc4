import Scriptlet.Number.Reader
import Scriptlet.Tree

/-! The grammar of the language over its tokens, with the tree of every phrase. Trees stand
without their places. Rules that repeat to the left build trees that lean to the left. -/
namespace Scriptlet.Grammar

inductive Phrase where
  | expression (tree : Expr)
  | assignee (tree : Expr)
  | properties (trees : List Property)
  | property (tree : Property)
  | additive (tree : Expr)
  | multiplicative (tree : Expr)
  | callMember (tree : Expr)
  | arguments (trees : List Expr)
  | member (tree : Expr)
  | primary (tree : Expr)

/-- A number is a phrase only with the value its digits read as. -/
inductive Derives : List Token → Phrase → Prop where
  | plain {tokens tree} (target : Derives tokens (.assignee tree)) :
      Derives tokens (.expression tree)
  | assign {left right target value} (assigned : Derives left (.assignee target))
      (assigning : Derives right (.expression value)) :
      Derives (left ++ .equals :: right) (.expression (.assign target value Span.empty))
  | object {tokens content} (inside : Derives tokens (.properties content)) :
      Derives (.leftBrace :: tokens ++ [.rightBrace]) (.assignee (.object content Span.empty))
  | operations {tokens tree} (sum : Derives tokens (.additive tree)) :
      Derives tokens (.assignee tree)
  | noProperties : Derives [] (.properties [])
  | lastProperty {tokens tree} (last : Derives tokens (.property tree)) :
      Derives tokens (.properties [tree])
  /-- The rest may be empty: a comma may follow the last property. -/
  | moreProperties {tokens others tree trees} (first : Derives tokens (.property tree))
      (rest : Derives others (.properties trees)) :
      Derives (tokens ++ .comma :: others) (.properties (tree :: trees))
  | shorthand {key} : Derives [.ident key] (.property (.shorthand key Span.empty))
  | valued {key tokens value} (inside : Derives tokens (.expression value)) :
      Derives (.ident key :: .colon :: tokens) (.property (.valued key value Span.empty))
  | product {tokens tree} (single : Derives tokens (.multiplicative tree)) :
      Derives tokens (.additive tree)
  | sum {left right operator first second} (additive : operator.isAdditive = true)
      (before : Derives left (.additive first)) (after : Derives right (.multiplicative second)) :
      Derives (left ++ .operator operator :: right)
        (.additive (.binary operator first second Span.empty))
  | factor {tokens tree} (single : Derives tokens (.callMember tree)) :
      Derives tokens (.multiplicative tree)
  | times {left right operator first second} (multiplicative : operator.isMultiplicative = true)
      (before : Derives left (.multiplicative first)) (after : Derives right (.callMember second)) :
      Derives (left ++ .operator operator :: right)
        (.multiplicative (.binary operator first second Span.empty))
  | noCall {tokens tree} (single : Derives tokens (.member tree)) :
      Derives tokens (.callMember tree)
  | emptyCall {tokens callee} (called : Derives tokens (.callMember callee)) :
      Derives (tokens ++ [.leftParen,.rightParen]) (.callMember (.call callee [] Span.empty))
  | call {tokens inner callee given} (called : Derives tokens (.callMember callee))
      (inside : Derives inner (.arguments given)) :
      Derives (tokens ++ .leftParen :: inner ++ [.rightParen])
        (.callMember (.call callee given Span.empty))
  | lastArgument {tokens tree} (last : Derives tokens (.expression tree)) :
      Derives tokens (.arguments [tree])
  | moreArguments {tokens others tree trees} (first : Derives tokens (.expression tree))
      (rest : Derives others (.arguments trees)) :
      Derives (tokens ++ .comma :: others) (.arguments (tree :: trees))
  | noMember {tokens tree} (single : Derives tokens (.primary tree)) :
      Derives tokens (.member tree)
  | named {tokens object name} (held : Derives tokens (.member object)) :
      Derives (tokens ++ [.dot,.ident name])
        (.member (.member object ⟨name,Span.empty⟩ Span.empty))
  | computed {tokens inner object key} (held : Derives tokens (.member object))
      (inside : Derives inner (.expression key)) :
      Derives (tokens ++ .leftBracket :: inner ++ [.rightBracket])
        (.member (.index object key Span.empty))
  | identifier {name} : Derives [.ident name] (.primary (.identifier ⟨name,Span.empty⟩))
  | number {digits value} (read : Number.read? digits = some value) :
      Derives [.number digits] (.primary (.number value Span.empty))
  | parentheses {tokens tree} (inside : Derives tokens (.expression tree)) :
      Derives (.leftParen :: tokens ++ [.rightParen]) (.primary tree)

/-- A statement, and whether it ends with a semicolon. -/
inductive Sentence : List Token → Statement → Bool → Prop where
  | initialised {keyword name tokens value} (reserved : keyword.isReserved = true)
      (inside : Derives tokens (.expression value)) :
      Sentence (keyword :: .ident name :: .equals :: tokens ++ [.semicolon])
        (.declaration ⟨⟨name,Span.empty⟩,keyword = .constWord,some value,Span.empty⟩) true
  | uninitialised {name} :
      Sentence [.letWord,.ident name,.semicolon]
        (.declaration ⟨⟨name,Span.empty⟩,false,none,Span.empty⟩) true
  | ended {tokens tree} (inside : Derives tokens (.expression tree)) :
      Sentence (tokens ++ [.semicolon]) (.expression tree) true
  | unended {tokens tree} (inside : Derives tokens (.expression tree)) :
      Sentence tokens (.expression tree) false

/-- A sequence of statements. With `apart` set, no expression without its semicolon stands
directly before a parenthesis, where it would be read as the callee of a call. -/
inductive Sentences (apart : Bool) : List Token → List Statement → Prop where
  | none : Sentences apart [] []
  | more {tokens others statement statements ended} (first : Sentence tokens statement ended)
      (separate : apart = true → ended = true ∨ others.head? ≠ some .leftParen)
      (rest : Sentences apart others statements) :
      Sentences apart (tokens ++ others) (statement :: statements)

def WholeProgram (apart : Bool) (tokens : List Token) (program : Program) : Prop :=
  Sentences apart tokens program.statements ∧ program.span = Span.empty

theorem Derives.semicolon_not_mem {tokens : List Token} {phrase : Phrase}
    (derived : Derives tokens phrase) : .semicolon ∉ tokens := by
  induction derived with
  | _ => simp_all

theorem Derives.ne_nil {tokens : List Token} {phrase : Phrase}
    (derived : Derives tokens phrase) (solid : ∀ trees, phrase ≠ .properties trees) :
    tokens ≠ [] := by
  induction derived with
  | noProperties => exact (solid _ rfl).elim
  | lastProperty => exact (solid _ rfl).elim
  | _ => simp_all

theorem Sentence.ne_nil {tokens : List Token} {statement : Statement} {ended : Bool}
    (sentence : Sentence tokens statement ended) : tokens ≠ [] := by
  cases sentence with
  | unended inside => exact inside.ne_nil (by simp)
  | _ => simp

/-! How phrases begin. -/

def opensOperand : Token → Bool
  | .ident _ | .number _ | .leftParen => true
  | _ => false

def opensExpression (token : Token) : Bool := opensOperand token || token = .leftBrace

def opensStatement (token : Token) : Bool := opensExpression token || token.isReserved

def Phrase.opens : Phrase → Token → Bool
  | .expression _ | .assignee _ | .arguments _ => opensExpression
  | .properties _ | .property _ => fun token => match token with
    | .ident _ => true
    | _ => false
  | _ => opensOperand

private theorem head_append {tokens more : List Token} {begins : Token → Prop} (some : tokens ≠ [])
    (head : ∀ first ∈ tokens.head?, begins first) :
    ∀ first ∈ (tokens ++ more).head?, begins first := by
  obtain ⟨first,rest,rfl⟩ := List.exists_cons_of_ne_nil some
  exact head

theorem Derives.opens {tokens : List Token} {phrase : Phrase} (derived : Derives tokens phrase) :
    ∀ first ∈ tokens.head?, phrase.opens first = true := by
  induction derived with
  | operations sum ih =>
    intro first head
    have operand := ih first head
    simp only [Phrase.opens] at operand ⊢
    simp [opensExpression,operand]
  | assign assigned _ ih _ => exact head_append (assigned.ne_nil (by simp)) ih
  | moreProperties property _ ih _ => exact head_append (property.ne_nil (by simp)) ih
  | sum _ before _ ih _ => exact head_append (before.ne_nil (by simp)) ih
  | times _ before _ ih _ => exact head_append (before.ne_nil (by simp)) ih
  | emptyCall called ih => exact head_append (called.ne_nil (by simp)) ih
  | call called _ ih _ =>
    rw [List.append_assoc]
    exact head_append (called.ne_nil (by simp)) ih
  | moreArguments argument _ ih _ => exact head_append (argument.ne_nil (by simp)) ih
  | named held ih => exact head_append (held.ne_nil (by simp)) ih
  | computed held _ ih _ =>
    rw [List.append_assoc]
    exact head_append (held.ne_nil (by simp)) ih
  | _ => simp_all [Phrase.opens,opensExpression,opensOperand]

theorem Sentence.opens {tokens : List Token} {statement : Statement} {ended : Bool}
    (sentence : Sentence tokens statement ended) :
    ∀ first ∈ tokens.head?, opensStatement first = true := by
  have widen {tokens : List Token} {tree : Expr} (inside : Derives tokens (.expression tree)) :
      ∀ first ∈ tokens.head?, opensStatement first = true := by
    intro first head
    have opened := inside.opens first head
    simp only [Phrase.opens] at opened
    simp [opensStatement,opened]
  cases sentence with
  | initialised reserved inside => simp [opensStatement,reserved]
  | uninitialised => simp [opensStatement,Token.isReserved]
  | ended inside => exact head_append (inside.ne_nil (by simp)) (widen inside)
  | unended inside => exact widen inside

end Scriptlet.Grammar
