import Scriptlet.Proofs.Printing.Tokens

/-! Brackets and separators. Phrases and printed trees are balanced, and a phrase has at least
as many separators as its printed tree. This fixes where the parts of a printed tree end. -/
namespace Scriptlet

def Token.rise : Token → Int
  | .leftParen | .leftBrace | .leftBracket => 1
  | .rightParen | .rightBrace | .rightBracket => -1
  | _ => 0

def depth (tokens : List Token) : Int := (tokens.map Token.rise).sum

@[simp] theorem depth_nil : depth [] = 0 := rfl

@[simp] theorem depth_cons (token : Token) (tokens : List Token) :
    depth (token :: tokens) = token.rise + depth tokens := by
  simp [depth]

@[simp] theorem depth_append (front back : List Token) :
    depth (front ++ back) = depth front + depth back := by
  simp [depth]

/-- Every bracket is closed, and none before it is opened. -/
structure Balanced (tokens : List Token) : Prop where
  above : ∀ front back, tokens = front ++ back → 0 ≤ depth front
  level : depth tokens = 0

namespace Balanced

variable {tokens others front back : List Token} {token opening closing : Token}

theorem nil : Balanced [] where
  above := by
    intro front back parts
    obtain ⟨rfl,_⟩ := List.nil_eq_append_iff.mp parts
    simp
  level := rfl

theorem append (first : Balanced tokens) (second : Balanced others) :
    Balanced (tokens ++ others) where
  above := by
    intro front back parts
    rcases List.append_eq_append_iff.mp parts with ⟨more,rfl,rest⟩ | ⟨more,whole,_⟩
    · have within := second.above more back rest
      rw [depth_append,first.level]
      omega
    · exact first.above front more whole
  level := by rw [depth_append,first.level,second.level,Int.add_zero]

theorem single (flat : token.rise = 0) : Balanced [token] where
  above := by
    intro front back parts
    rcases List.singleton_eq_append_iff.mp parts with ⟨rfl,_⟩ | ⟨rfl,_⟩ <;> simp [flat]
  level := by simp [flat]

theorem cons (flat : token.rise = 0) (rest : Balanced tokens) : Balanced (token :: tokens) :=
  append (single flat) rest

/-- Between brackets the depth stays above that outside. -/
theorem depth_within (inside : Balanced tokens) (opens : opening.rise = 1)
    (parts : opening :: (tokens ++ [closing]) = front ++ token :: back) :
    front = [] ∨ 0 < depth front := by
  cases front with
  | nil => exact .inl rfl
  | cons first front =>
    obtain ⟨rfl,rest⟩ := List.cons.inj parts
    have whole : tokens = front ++ (token :: back).dropLast := by
      have shorter := congrArg List.dropLast rest
      rwa [List.dropLast_concat,List.append_eq,List.dropLast_append_of_ne_nil (by simp)] at shorter
    have within := inside.above front _ whole
    rw [depth_cons,opens]
    exact .inr (by omega)

private theorem enclose (inside : Balanced tokens) (opens : opening.rise = 1)
    (closes : closing.rise = -1) : Balanced (opening :: (tokens ++ [closing])) where
  above := by
    intro front back parts
    cases back with
    | nil =>
      rw [List.append_nil] at parts
      simp [← parts,inside.level,opens,closes]
    | cons token back =>
      rcases inside.depth_within opens parts with rfl | within
      · simp
      · omega
  level := by simp [inside.level,opens,closes]

private theorem shorter_front {front' tokens' : List Token} (inside : Balanced tokens)
    (inside' : Balanced tokens') (opens : opening.rise = 1)
    (same : front ++ opening :: tokens = front' ++ opening :: tokens') :
    front'.length ≤ front.length := by
  rcases List.append_eq_append_iff.mp same with ⟨more,rfl,rest⟩ | ⟨more,rfl,_⟩
  · cases more with
    | nil => simp
    | cons first more =>
      obtain ⟨_,rest⟩ := List.cons.inj rest
      have within := inside.above more _ rest
      have level := inside.level
      rw [rest,List.append_eq,depth_append,depth_cons,inside'.level,opens] at level
      omega
  · simp

/-- There is only one bracket that is closed where the tokens end. -/
theorem last_unique {front' tokens' : List Token} (inside : Balanced tokens)
    (inside' : Balanced tokens') (opens : opening.rise = 1)
    (same : front ++ opening :: (tokens ++ [closing]) =
      front' ++ opening :: (tokens' ++ [closing])) : front = front' ∧ tokens = tokens' := by
  rw [← List.cons_append,← List.append_assoc,← List.cons_append,← List.append_assoc] at same
  have before := List.append_cancel_right same
  have shorter := shorter_front inside inside' opens before
  have longer := shorter_front inside' inside opens before.symm
  obtain ⟨fronts,rest⟩ := List.append_inj before (by omega)
  exact ⟨fronts,(List.cons.inj rest).2⟩

private theorem flat (all : ∀ token ∈ tokens, token.rise = 0) : Balanced tokens := by
  induction tokens with
  | nil => exact nil
  | cons first others ih =>
    obtain ⟨here,later⟩ := List.forall_mem_cons.mp all
    exact cons here (ih later)

theorem joined {lists : List (List Token)} (each : ∀ tokens ∈ lists, Balanced tokens) :
    Balanced ([.comma].intercalate lists) := by
  induction lists with
  | nil => exact nil
  | cons first others ih =>
    obtain ⟨here,later⟩ := List.forall_mem_cons.mp each
    cases others with
    | nil => simpa using here
    | cons second others =>
      rw [List.intercalate_cons_cons,List.append_assoc]
      exact here.append (cons rfl (ih later))

end Balanced

theorem Grammar.Derives.balanced {tokens : List Token} {phrase : Grammar.Phrase}
    (derived : Grammar.Derives tokens phrase) : Balanced tokens := by
  induction derived with
  | plain _ ih => exact ih
  | assign _ _ left right => exact left.append (right.cons rfl)
  | object _ ih => exact ih.enclose rfl rfl
  | operations _ ih => exact ih
  | noProperties => exact .nil
  | lastProperty _ ih => exact ih
  | moreProperties _ _ first rest => exact first.append (rest.cons rfl)
  | shorthand => exact .single rfl
  | valued _ ih => exact (ih.cons rfl).cons rfl
  | product _ ih => exact ih
  | sum _ _ _ left right => exact left.append (right.cons rfl)
  | factor _ ih => exact ih
  | times _ _ _ left right => exact left.append (right.cons rfl)
  | noCall _ ih => exact ih
  | emptyCall _ ih => exact ih.append (Balanced.nil.enclose rfl rfl)
  | call _ _ called inside =>
    rw [List.append_assoc]
    exact called.append (inside.enclose rfl rfl)
  | lastArgument _ ih => exact ih
  | moreArguments _ _ first rest => exact first.append (rest.cons rfl)
  | noMember _ ih => exact ih
  | named _ ih => exact ih.append ((Balanced.single rfl).cons rfl)
  | computed _ _ held inside =>
    rw [List.append_assoc]
    exact held.append (inside.enclose rfl rfl)
  | identifier => exact .single rfl
  | number => exact .single rfl
  | parentheses _ ih => exact ih.enclose rfl rfl

/-! Printed trees. -/

def Token.isLeaf : Token → Bool
  | .number _ | .ident _ | .dot => true
  | _ => false

theorem numberTokens_leaf (text : List Char) :
    ∀ token ∈ Number.tokens text, token.isLeaf = true := by
  unfold Number.tokens
  split <;> simp [Token.isLeaf]

private theorem rise_of_leaf {token : Token} (leaf : token.isLeaf = true) : token.rise = 0 := by
  cases token <;> simp_all [Token.isLeaf,Token.rise]

theorem Expr.tokens_balanced (tree : Expr) : Balanced tree.tokens := by
  induction tree using Expr.induct with
  | number value span =>
    rw [tokens]
    exact .flat fun token member => rise_of_leaf (numberTokens_leaf _ token member)
  | identifier name =>
    rw [tokens]
    exact .single rfl
  | assign target value span first second =>
    rw [tokens]
    exact first.append (second.cons rfl)
  | binary operator left right span first second =>
    rw [tokens]
    exact (first.append (second.cons rfl)).enclose rfl rfl
  | object properties span inside =>
    have each : ∀ property ∈ properties, Balanced property.tokens := by
      intro property member
      cases property with
      | shorthand key place => simpa [Property.tokens] using Balanced.single rfl
      | valued key value place =>
        rw [Property.tokens]
        exact ((inside key value place member).cons rfl).cons rfl
    rw [tokens,propertyTokens_eq]
    exact (Balanced.joined (List.forall_mem_map.mpr each)).enclose rfl rfl
  | call callee given span first inside =>
    rw [tokens,argumentTokens_eq,List.append_assoc]
    exact first.append ((Balanced.joined (List.forall_mem_map.mpr inside)).enclose rfl rfl)
  | member object name span first =>
    rw [tokens]
    exact first.append ((Balanced.single rfl).cons rfl)
  | index object key span first second =>
    rw [tokens,List.append_assoc]
    exact first.append (second.enclose rfl rfl)

/-- Two parts with no more marked tokens than those of another split end where those end. -/
theorem split_unique {mark : Token → Bool} {left right left' right' : List Token}
    {middle middle' : Token} (same : left ++ middle :: right = left' ++ middle' :: right')
    (marked : mark middle = true) (marked' : mark middle' = true)
    (fewer : left.countP mark ≤ left'.countP mark)
    (fewer' : right.countP mark ≤ right'.countP mark) : left = left' ∧ right = right' := by
  have count := congrArg (List.countP mark) same
  simp only [List.countP_append,List.countP_cons,marked,marked',if_true] at count
  -- A longer left part would hold the marked token of the other split in addition.
  have sized : left.length = left'.length := by
    rcases List.append_eq_append_iff.mp same with ⟨more,rfl,rest⟩ | ⟨more,rfl,rest⟩
    · cases more with
      | nil => simp
      | cons first more =>
        obtain ⟨rfl,_⟩ := List.cons.inj rest
        simp only [List.countP_append,List.countP_cons,marked,if_true] at count fewer
        omega
    · cases more with
      | nil => simp
      | cons first more =>
        obtain ⟨rfl,_⟩ := List.cons.inj rest
        simp only [List.countP_append,List.countP_cons,marked',if_true] at count fewer
        omega
  obtain ⟨lefts,rest⟩ := List.append_inj same sized
  exact ⟨lefts,(List.cons.inj rest).2⟩

/-! Separators. -/

def Token.isSeparator : Token → Bool
  | .comma | .equals | .operator _ => true
  | _ => false

def separators (tokens : List Token) : Nat := tokens.countP Token.isSeparator

@[simp] theorem separators_nil : separators [] = 0 := rfl

@[simp] theorem separators_cons (token : Token) (tokens : List Token) :
    separators (token :: tokens) = separators tokens + if token.isSeparator then 1 else 0 :=
  List.countP_cons

@[simp] theorem separators_append (front back : List Token) :
    separators (front ++ back) = separators front + separators back := List.countP_append

def Grammar.Phrase.tokens : Grammar.Phrase → List Token
  | .properties trees => [.comma].intercalate (trees.map Property.tokens)
  | .property tree => tree.tokens
  | .arguments trees => [.comma].intercalate (trees.map Expr.tokens)
  | .expression tree | .assignee tree | .additive tree | .multiplicative tree | .callMember tree
  | .member tree | .primary tree => tree.tokens

private theorem separators_joined_cons (first : List Token) (others : List (List Token)) :
    separators ([.comma].intercalate (first :: others)) ≤
      separators first + separators ([.comma].intercalate others) + 1 := by
  cases others with
  | nil => simp
  | cons second others =>
    rw [List.intercalate_cons_cons]
    simp [Token.isSeparator]
    omega

private theorem separators_number (text : List Char) : separators (Number.tokens text) = 0 := by
  rw [separators,List.countP_eq_zero]
  intro token member
  have leaf := numberTokens_leaf text token member
  cases token <;> simp_all [Token.isLeaf,Token.isSeparator]

/-- Printing never adds a separator. -/
theorem Grammar.Derives.separators_le {tokens : List Token} {phrase : Grammar.Phrase}
    (derived : Grammar.Derives tokens phrase) : separators phrase.tokens ≤ separators tokens := by
  induction derived with
  | number => simp [Phrase.tokens,Expr.tokens,separators_number]
  | @moreProperties tokens others tree trees _ _ first rest =>
    have joined := separators_joined_cons tree.tokens (trees.map Property.tokens)
    simp only [Phrase.tokens,List.map_cons,separators_append,separators_cons] at first rest ⊢
    simp only [Token.isSeparator,if_true]
    omega
  | @moreArguments tokens others tree trees _ _ first rest =>
    have joined := separators_joined_cons tree.tokens (trees.map Expr.tokens)
    simp only [Phrase.tokens,List.map_cons,separators_append,separators_cons] at first rest ⊢
    simp only [Token.isSeparator,if_true]
    omega
  | _ => simp_all [Phrase.tokens,Expr.tokens,Property.tokens,Token.isSeparator] <;> omega

theorem Expr.tokens_erase (tree : Expr) : tree.erase.tokens = tree.tokens := by
  induction tree using Expr.induct with
  | object properties span inside =>
    have each : (properties.map Property.erase).map Property.tokens =
        properties.map Property.tokens := by
      rw [List.map_map]
      apply List.map_congr_left
      intro property member
      cases property with
      | shorthand key place => simp [Property.tokens]
      | valued key value place => simp [Property.tokens,inside key value place member]
    simp only [erase_object,tokens,propertyTokens_eq,each]
  | call callee given span first inside =>
    have each : (given.map erase).map tokens = given.map tokens := by
      rw [List.map_map]
      exact List.map_congr_left inside
    simp only [erase_call,tokens,argumentTokens_eq,first,each]
  | _ => simp_all [tokens]

theorem Property.tokens_erase (property : Property) : property.erase.tokens = property.tokens := by
  cases property <;> simp [tokens,Expr.tokens_erase]

end Scriptlet
