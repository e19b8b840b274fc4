import Scriptlet.Proofs.Printing.Brackets

/-! The forms of expressions. Apart from parentheses around it, a tree can come only from a phrase
of the form of its own kind; the phrases of operands admit fewer kinds. -/
namespace Scriptlet

namespace Expr

def isAssign : Expr → Bool
  | .assign _ _ _ => true
  | _ => false

def isObject : Expr → Bool
  | .object _ _ => true
  | _ => false

def isCall : Expr → Bool
  | .call _ _ _ => true
  | _ => false

def isLoose (tree : Expr) : Bool := tree.isAssign || tree.isObject

end Expr

namespace Grammar

def Phrase.tree? : Phrase → Option Expr
  | .expression tree | .assignee tree | .additive tree | .multiplicative tree | .callMember tree
  | .member tree | .primary tree => some tree
  | .properties _ | .property _ | .arguments _ => none

/-- Whether the phrase can be of the tree's kind without parentheses around it. -/
def Phrase.admits (tree : Expr) : Phrase → Bool
  | .assignee _ => !tree.isAssign
  | .additive _ | .multiplicative _ | .callMember _ => !tree.isLoose
  | .member _ | .primary _ => !tree.isLoose && !tree.isCall
  | _ => true

/-- The tokens have the form of the tree's kind. -/
def Form (tokens : List Token) : Expr → Prop
  | .number value _ => ∃ digits, tokens = [.number digits] ∧ Number.read? digits = some value
  | .identifier name => tokens = [.ident name.name]
  | .assign target value _ => ∃ left right, tokens = left ++ .equals :: right ∧
      Derives left (.assignee target) ∧ Derives right (.expression value)
  | .binary operator first second _ => ∃ left right, tokens = left ++ .operator operator :: right ∧
      Derives left (.additive first) ∧ Derives right (.additive second)
  | .object content _ => ∃ inner, tokens = .leftBrace :: (inner ++ [.rightBrace]) ∧
      Derives inner (.properties content)
  | .call callee given _ => ∃ front inner, tokens =
    front ++ .leftParen :: (inner ++ [.rightParen]) ∧
      Derives front (.callMember callee) ∧
      (given = [] ∧ inner = [] ∨ Derives inner (.arguments given))
  | .member object name _ => ∃ front, tokens = front ++ [.dot,.ident name.name] ∧
      Derives front (.member object)
  | .index object key _ => ∃ front inner,
      tokens = front ++ .leftBracket :: (inner ++ [.rightBracket]) ∧
      Derives front (.member object) ∧ Derives inner (.expression key)

def Enclosed (tokens : List Token) (tree : Expr) : Prop :=
  ∃ inner, tokens = .leftParen :: (inner ++ [.rightParen]) ∧ Derives inner (.expression tree)

section
variable {tokens : List Token} {phrase : Phrase} {tree : Expr}

theorem Derives.form (derived : Derives tokens phrase) (stands : phrase.tree? = some tree) :
    Form tokens tree ∧ phrase.admits tree = true ∨ Enclosed tokens tree := by
  -- A rule either hands its phrase on, builds the form of its tree, or adds parentheses.
  induction derived with
  | plain _ ih =>
    rcases ih stands with ⟨form,_⟩ | enclosed
    · exact .inl ⟨form,rfl⟩
    · exact .inr enclosed
  | assign assigned assigning =>
    obtain rfl := Option.some.inj stands
    exact .inl ⟨⟨_,_,rfl,assigned,assigning⟩,rfl⟩
  | object inside =>
    obtain rfl := Option.some.inj stands
    exact .inl ⟨⟨_,rfl,inside⟩,rfl⟩
  | operations _ ih =>
    rcases ih stands with ⟨form,admitted⟩ | enclosed
    · simp_all [Phrase.admits,Expr.isLoose]
    · exact .inr enclosed
  | product _ ih => exact ih stands
  | sum _ before after =>
    obtain rfl := Option.some.inj stands
    exact .inl ⟨⟨_,_,rfl,before,.product after⟩,rfl⟩
  | factor _ ih => exact ih stands
  | times _ before after =>
    obtain rfl := Option.some.inj stands
    exact .inl ⟨⟨_,_,rfl,.product before,.product (.factor after)⟩,rfl⟩
  | noCall _ ih =>
    rcases ih stands with ⟨form,admitted⟩ | enclosed
    · simp_all [Phrase.admits]
    · exact .inr enclosed
  | emptyCall called =>
    obtain rfl := Option.some.inj stands
    exact .inl ⟨⟨_,[],rfl,called,.inl ⟨rfl,rfl⟩⟩,rfl⟩
  | call called inside =>
    obtain rfl := Option.some.inj stands
    exact .inl ⟨⟨_,_,by simp,called,.inr inside⟩,rfl⟩
  | noMember _ ih => exact ih stands
  | named held =>
    obtain rfl := Option.some.inj stands
    exact .inl ⟨⟨_,rfl,held⟩,rfl⟩
  | computed held inside =>
    obtain rfl := Option.some.inj stands
    exact .inl ⟨⟨_,_,by simp,held,inside⟩,rfl⟩
  | identifier =>
    obtain rfl := Option.some.inj stands
    exact .inl ⟨rfl,rfl⟩
  | number read =>
    obtain rfl := Option.some.inj stands
    exact .inl ⟨⟨_,rfl,read⟩,rfl⟩
  | parentheses inside =>
    obtain rfl := Option.some.inj stands
    exact .inr ⟨_,rfl,inside⟩
  | _ => cases stands

theorem Derives.lift (derived : Derives tokens phrase) (stands : phrase.tree? = some tree) :
    Derives tokens (.expression tree) := by
  have sum {tokens tree} (single : Derives tokens (.callMember tree)) :
      Derives tokens (.expression tree) := .plain (.operations (.product (.factor single)))
  cases phrase with
  | properties | property | arguments => cases stands
  | expression => exact Option.some.inj stands ▸ derived
  | assignee => exact Option.some.inj stands ▸ .plain derived
  | additive => exact Option.some.inj stands ▸ .plain (.operations derived)
  | multiplicative => exact Option.some.inj stands ▸ .plain (.operations (.product derived))
  | callMember => exact Option.some.inj stands ▸ sum derived
  | member => exact Option.some.inj stands ▸ sum (.noCall derived)
  | primary => exact Option.some.inj stands ▸ sum (.noCall (.noMember derived))

end

end Grammar

/-! Printed trees among these forms. -/

open Grammar

variable {tree : Expr} {phrase : Phrase}

private theorem Expr.tokens_ne_nil (tree : Expr) : tree.tokens ≠ [] := by
  cases tree with
  | number value span =>
    rw [tokens,Number.tokens]
    split <;> simp
  | _ => simp [tokens]

/-- No tree is printed right behind the parenthesis that encloses it together with more. -/
theorem Expr.not_within {inner back : List Token} {token : Token} (inside : Balanced inner)
    (same : .leftParen :: (inner ++ [.rightParen]) = tree.tokens ++ token :: back) : False := by
  rcases inside.depth_within rfl same with empty | within
  · exact tree.tokens_ne_nil empty
  · have level := tree.tokens_balanced.level
    omega

private theorem Expr.binary_of_enclosed {inner : List Token} (inside : Balanced inner)
    (same : .leftParen :: (inner ++ [.rightParen]) = tree.tokens) :
    ∃ operator left right span, tree = .binary operator left right span := by
  cases tree with
  | number value span =>
    rw [tokens] at same
    have leaf := numberTokens_leaf _ .leftParen (same ▸ List.mem_cons_self)
    cases leaf
  | identifier name => simp [tokens] at same
  | assign target value span =>
    rw [tokens] at same
    exact (not_within inside same).elim
  | binary operator left right span => exact ⟨_,_,_,_,rfl⟩
  | object properties span => simp [tokens] at same
  | call callee given span =>
    rw [tokens,List.append_assoc] at same
    exact (not_within inside same).elim
  | member object name span =>
    rw [tokens] at same
    exact (not_within inside same).elim
  | index object key span =>
    rw [tokens,List.append_assoc] at same
    exact (not_within inside same).elim

/-- A printed tree that is a phrase is of a kind that the phrase admits, and unless it is an
operation it has the form of its kind. -/
theorem Expr.printed_form (derived : Derives tree.tokens phrase)
    (stands : phrase.tree? = some tree.erase) :
    phrase.admits tree = true ∧
      (Form tree.tokens tree.erase ∨ ∃ operator left right span,
        tree = .binary operator left right span) := by
  have kinds : phrase.admits tree.erase = phrase.admits tree := by
    cases tree <;> simp [Phrase.admits,isLoose,isAssign,isObject,isCall]
  rcases derived.form stands with ⟨form,admitted⟩ | ⟨inner,same,inside⟩
  · exact ⟨kinds ▸ admitted,.inl form⟩
  · obtain ⟨operator,left,right,span,rfl⟩ := binary_of_enclosed inside.balanced same.symm
    refine ⟨?_,.inr ⟨_,_,_,_,rfl⟩⟩
    cases phrase <;> rfl

end Scriptlet
