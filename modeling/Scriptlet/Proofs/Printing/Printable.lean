import Scriptlet.Proofs.Printing.Forms

/-! Printable trees. Only operations are printed with parentheses, so the tokens of a printed tree
are a phrase for this tree exactly if no other part of it needs them. -/
namespace Scriptlet
open Grammar

/-- No direct part of the node needs parentheses, and the text of a number is a numeral that reads
back as the number. -/
def Expr.Printable : Expr → Prop
  | .number value _ => IsNumeral (Number.plain.text value).toList ∧
      Number.read? (Number.plain.text value) = some value
  | .identifier _ => True
  | .assign target _ _ => target.isAssign = false
  | .binary _ left right _ => left.isLoose = false ∧ right.isLoose = false
  | .object _ _ => True
  | .call callee _ _ => callee.isLoose = false
  | .member held _ _ | .index held _ _ => held.isLoose = false ∧ held.isCall = false

variable {tree : Expr} {tokens : List Token}

/-! Printable trees are phrases. -/

def Expr.phrase (tree : Expr) : Phrase :=
  if tree.isAssign then .expression tree.erase
  else if tree.isObject then .assignee tree.erase
  else if tree.isCall then .callMember tree.erase
  else .member tree.erase

theorem Expr.expression_of_phrase (derived : Derives tokens tree.phrase) :
    Derives tokens (.expression tree.erase) := by
  apply derived.lift
  unfold phrase
  split
  · rfl
  · split
    · rfl
    · split <;> rfl

private theorem Expr.callMember_of_phrase (derived : Derives tokens tree.phrase)
    (tight : tree.isLoose = false) : Derives tokens (.callMember tree.erase) := by
  obtain ⟨assign,object⟩ := Bool.or_eq_false_iff.mp tight
  simp only [phrase,assign,object,Bool.false_eq_true,if_false] at derived
  split at derived
  · exact derived
  · exact .noCall derived

private theorem Expr.assignee_of_phrase (derived : Derives tokens tree.phrase)
    (free : tree.isAssign = false) : Derives tokens (.assignee tree.erase) := by
  cases object : tree.isObject with
  | true => simpa [phrase,free,object] using derived
  | false =>
    exact .operations
      (.product (.factor (callMember_of_phrase derived (by simp [isLoose,free,object]))))

private theorem Expr.member_of_phrase (derived : Derives tokens tree.phrase)
    (tight : tree.isLoose = false) (single : tree.isCall = false) :
    Derives tokens (.member tree.erase) := by
  obtain ⟨assign,object⟩ := Bool.or_eq_false_iff.mp tight
  simpa [phrase,assign,object,single] using derived

private theorem properties_of_each {properties : List Property}
    (each : ∀ property ∈ properties, Derives property.tokens (.property property.erase)) :
    Derives ([.comma].intercalate (properties.map Property.tokens))
      (.properties (properties.map Property.erase)) := by
  induction properties with
  | nil => exact .noProperties
  | cons property others ih =>
    obtain ⟨first,later⟩ := List.forall_mem_cons.mp each
    cases others with
    | nil =>
      simp only [List.map_cons,List.map_nil,List.intercalate_singleton]
      exact .lastProperty first
    | cons next others =>
      have rest := ih later
      simp only [List.map_cons,List.intercalate_cons_cons,List.append_assoc] at rest ⊢
      exact .moreProperties first rest

private theorem arguments_of_each {given : List Expr} (some : given ≠ [])
    (each : ∀ argument ∈ given, Derives argument.tokens (.expression argument.erase)) :
    Derives ([.comma].intercalate (given.map Expr.tokens)) (.arguments (given.map Expr.erase)) := by
  induction given with
  | nil => exact (some rfl).elim
  | cons argument others ih =>
    obtain ⟨first,later⟩ := List.forall_mem_cons.mp each
    cases others with
    | nil =>
      simp only [List.map_cons,List.map_nil,List.intercalate_singleton]
      exact .lastArgument first
    | cons next others =>
      have rest := ih (by simp) later
      simp only [List.map_cons,List.intercalate_cons_cons,List.append_assoc] at rest ⊢
      exact .moreArguments first rest

private theorem binary_derives {left right : List Token} {operator : Operator} {first second : Expr}
    (before : Derives left (.callMember first)) (after : Derives right (.callMember second)) :
    Derives (left ++ .operator operator :: right)
      (.expression (.binary operator first second Span.empty)) := by
  cases additive : operator.isAdditive with
  | true => exact .plain (.operations (.sum additive (.product (.factor before)) (.factor after)))
  | false =>
    have multiplicative : operator.isMultiplicative = true := by
      simp [Operator.isMultiplicative,additive]
    exact .plain (.operations (.product (.times multiplicative (.factor before) after)))

theorem Expr.derives_of_printable (printable : tree.Every Printable) :
    Derives tree.tokens tree.phrase := by
  induction tree using Expr.induct with
  | number value span =>
    obtain ⟨numeral,read⟩ := every_number.mp printable
    rw [tokens,numberTokens_numeral numeral.2,String.ofList_toList]
    exact .noMember (.number read)
  | identifier name =>
    rw [tokens]
    exact .noMember .identifier
  | assign target value span first second =>
    obtain ⟨free,targets,values⟩ := every_assign.mp printable
    rw [tokens]
    exact .assign (assignee_of_phrase (first targets) free) (expression_of_phrase (second values))
  | binary operator left right span first second =>
    obtain ⟨⟨tight,tight'⟩,lefts,rights⟩ := every_binary.mp printable
    rw [tokens]
    exact .noMember (.parentheses (binary_derives (callMember_of_phrase (first lefts) tight)
      (callMember_of_phrase (second rights) tight')))
  | object properties span inside =>
    obtain ⟨_,values⟩ := every_object.mp printable
    have each : ∀ property ∈ properties, Derives property.tokens (.property property.erase) := by
      intro property member
      have every := values property member
      cases property with
      | shorthand key place => simpa [Property.tokens] using Derives.shorthand
      | valued key value place =>
        have valued := inside key value place member (Property.every_valued.mp every)
        simpa [Property.tokens] using Derives.valued (expression_of_phrase valued)
    have phrase : (Expr.object properties span).phrase =
        .assignee (.object (properties.map Property.erase) Span.empty) := by
      simp [Expr.phrase,isAssign,isObject]
    rw [tokens,propertyTokens_eq,phrase]
    exact .object (properties_of_each each)
  | call callee given span first inside =>
    obtain ⟨tight,callees,values⟩ := every_call.mp printable
    have called := callMember_of_phrase (first callees) tight
    have each : ∀ argument ∈ given, Derives argument.tokens (.expression argument.erase) := by
      intro argument member
      exact expression_of_phrase (inside argument member (values argument member))
    have phrase : (Expr.call callee given span).phrase =
        .callMember (.call callee.erase (given.map erase) Span.empty) := by
      simp [Expr.phrase,isAssign,isObject,isCall]
    rw [tokens,argumentTokens_eq,phrase]
    by_cases none : given = []
    · subst none
      simpa using Derives.emptyCall called
    · exact .call called (arguments_of_each none each)
  | member object name span first =>
    obtain ⟨⟨tight,single⟩,held⟩ := every_member.mp printable
    rw [tokens]
    exact .named (member_of_phrase (first held) tight single)
  | index object key span first second =>
    obtain ⟨⟨tight,single⟩,held,keys⟩ := every_index.mp printable
    rw [tokens]
    exact .computed (member_of_phrase (first held) tight single)
      (expression_of_phrase (second keys))

/-! Printed trees that are phrases are printable. -/

theorem Expr.separators_le {phrase : Phrase} (derived : Derives tokens phrase)
    (stands : phrase.tree? = some tree.erase) : separators tree.tokens ≤ separators tokens := by
  have fewer := (derived.lift stands).separators_le
  rwa [Phrase.tokens,tokens_erase] at fewer

private theorem split_joined {first front back : List Token} {others : List (List Token)}
    (same : [.comma].intercalate (first :: others) = front ++ .comma :: back)
    (fewer : separators first ≤ separators front)
    (fewer' : separators ([.comma].intercalate others) ≤ separators back) :
    others ≠ [] ∧ first = front ∧ [.comma].intercalate others = back := by
  cases others with
  | nil =>
    rw [List.intercalate_singleton] at same
    simp only [same,separators_append,separators_cons,Token.isSeparator,if_true] at fewer
    omega
  | cons second others =>
    rw [List.intercalate_cons_cons,List.append_assoc] at same
    exact ⟨by simp,split_unique same rfl rfl fewer fewer'⟩

private theorem each_of_properties {properties : List Property}
    (derived : Derives ([.comma].intercalate (properties.map Property.tokens))
      (.properties (properties.map Property.erase))) :
    ∀ property ∈ properties, Derives property.tokens (.property property.erase) := by
  induction properties with
  | nil => simp
  | cons property others ih =>
    rw [List.forall_mem_cons]
    rw [List.map_cons,List.map_cons] at derived
    generalize same : [.comma].intercalate (property.tokens :: others.map Property.tokens) = tokens
      at derived
    generalize rest : others.map Property.erase = trees at derived
    cases derived with
    | lastProperty last =>
      obtain rfl := List.map_eq_nil_iff.mp rest
      rw [List.map_nil,List.intercalate_singleton] at same
      exact ⟨same ▸ last,by simp⟩
    | moreProperties first more =>
      subst rest
      have fewer := first.separators_le
      have fewer' := more.separators_le
      simp only [Phrase.tokens,List.map_map,Property.tokens_erase] at fewer fewer'
      have erased : Property.tokens ∘ Property.erase = Property.tokens :=
        funext Property.tokens_erase
      rw [erased] at fewer'
      obtain ⟨_,rfl,rfl⟩ := split_joined same fewer fewer'
      exact ⟨first,ih more⟩

private theorem each_of_arguments {given : List Expr}
    (derived : Derives ([.comma].intercalate (given.map Expr.tokens))
      (.arguments (given.map Expr.erase))) :
    ∀ argument ∈ given, Derives argument.tokens (.expression argument.erase) := by
  induction given with
  | nil => simp
  | cons argument others ih =>
    rw [List.forall_mem_cons]
    rw [List.map_cons,List.map_cons] at derived
    generalize same : [.comma].intercalate (argument.tokens :: others.map Expr.tokens) = tokens
      at derived
    generalize rest : others.map Expr.erase = trees at derived
    cases derived with
    | lastArgument last =>
      obtain rfl := List.map_eq_nil_iff.mp rest
      rw [List.map_nil,List.intercalate_singleton] at same
      exact ⟨same ▸ last,by simp⟩
    | moreArguments first more =>
      subst rest
      have fewer := first.separators_le
      have fewer' := more.separators_le
      simp only [Phrase.tokens,List.map_map,Expr.tokens_erase] at fewer fewer'
      have erased : Expr.tokens ∘ Expr.erase = Expr.tokens := funext Expr.tokens_erase
      rw [erased] at fewer'
      obtain ⟨_,rfl,rfl⟩ := split_joined same fewer fewer'
      exact ⟨first,ih more⟩

private theorem Expr.operands_of_binary {operator : Operator} {left right : Expr} {span : Span}
    (derived : Derives (binary operator left right span).tokens
      (.expression (binary operator left right span).erase)) :
    Derives left.tokens (.additive left.erase) ∧ Derives right.tokens (.additive right.erase) := by
  have operands : Balanced (left.tokens ++ .operator operator :: right.tokens) :=
    left.tokens_balanced.append (right.tokens_balanced.cons rfl)
  rw [tokens,erase_binary] at derived
  -- An operand in front of an operator cannot end within the parentheses of the operation.
  rcases derived.form rfl with ⟨⟨front,back,same,before,_⟩,_⟩ | ⟨inner,same,inside⟩
  · rcases operands.depth_within rfl same with empty | within
    · exact (before.ne_nil (by simp) empty).elim
    · have level := before.balanced.level
      omega
  · obtain rfl := List.append_cancel_right (List.cons.inj same).2
    -- The phrase may divide at another operator only if the operands have more separators.
    rcases inside.form rfl with ⟨⟨front,back,same,before,after⟩,_⟩ | ⟨inner,same,within⟩
    · have fewer := separators_le before rfl
      have fewer' := separators_le after rfl
      obtain ⟨rfl,rfl⟩ := split_unique same rfl rfl fewer fewer'
      exact ⟨before,after⟩
    · exact (not_within within.balanced same.symm).elim

section
variable {span : Span}

private theorem Expr.parts_of_assign {target value : Expr}
    (derived : Derives (assign target value span).tokens
      (.expression (assign target value span).erase)) :
    Derives target.tokens (.assignee target.erase) ∧
      Derives value.tokens (.expression value.erase) := by
  rcases (printed_form derived rfl).2 with form | ⟨_,_,_,_,other⟩
  · rw [tokens,erase_assign] at form
    obtain ⟨left,right,same,assigned,assigning⟩ := form
    have fewer := separators_le assigned rfl
    have fewer' := separators_le assigning rfl
    obtain ⟨rfl,rfl⟩ := split_unique same rfl rfl fewer fewer'
    exact ⟨assigned,assigning⟩
  · cases other

private theorem Expr.parts_of_object {properties : List Property}
    (derived : Derives (object properties span).tokens
      (.expression (object properties span).erase)) :
    ∀ property ∈ properties, Derives property.tokens (.property property.erase) := by
  rcases (printed_form derived rfl).2 with form | ⟨_,_,_,_,other⟩
  · rw [tokens,propertyTokens_eq,erase_object] at form
    obtain ⟨inner,same,inside⟩ := form
    obtain rfl := List.append_cancel_right (List.cons.inj same).2
    exact each_of_properties inside
  · cases other

private theorem value_of_property {key : String} {value : Expr}
    (derived : Derives (Property.valued key value span).tokens
      (.property (Property.valued key value span).erase)) :
    Derives value.tokens (.expression value.erase) := by
  rw [Property.tokens,Property.erase_valued] at derived
  generalize same : Token.ident key :: .colon :: value.tokens = tokens at derived
  cases derived with
  | valued inside =>
    obtain ⟨_,same⟩ := List.cons.inj same
    obtain ⟨_,rfl⟩ := List.cons.inj same
    exact inside

private theorem Expr.parts_of_call {callee : Expr} {given : List Expr}
    (derived : Derives (call callee given span).tokens
      (.expression (call callee given span).erase)) :
    Derives callee.tokens (.callMember callee.erase) ∧
      ∀ argument ∈ given, Derives argument.tokens (.expression argument.erase) := by
  rcases (printed_form derived rfl).2 with form | ⟨_,_,_,_,other⟩
  · rw [tokens,argumentTokens_eq,erase_call,List.append_assoc] at form
    obtain ⟨front,inner,same,called,inside⟩ := form
    have joined : Balanced ([.comma].intercalate (given.map tokens)) := by
      apply Balanced.joined
      rw [List.forall_mem_map]
      exact fun argument _ => argument.tokens_balanced
    rcases inside with ⟨none,rfl⟩ | inside
    · obtain rfl := List.map_eq_nil_iff.mp none
      obtain ⟨rfl,_⟩ := joined.last_unique .nil rfl same
      exact ⟨called,by simp⟩
    · obtain ⟨rfl,rfl⟩ := joined.last_unique inside.balanced rfl same
      exact ⟨called,each_of_arguments inside⟩
  · cases other

private theorem Expr.parts_of_member {object : Expr} {name : Identifier}
    (derived : Derives (member object name span).tokens
      (.expression (member object name span).erase)) :
    Derives object.tokens (.member object.erase) := by
  rcases (printed_form derived rfl).2 with form | ⟨_,_,_,_,other⟩
  · rw [tokens,erase_member] at form
    obtain ⟨front,same,held⟩ := form
    obtain rfl := List.append_cancel_right same
    exact held
  · cases other

private theorem Expr.parts_of_index {object key : Expr}
    (derived : Derives (index object key span).tokens
      (.expression (index object key span).erase)) :
    Derives object.tokens (.member object.erase) ∧ Derives key.tokens (.expression key.erase) := by
  rcases (printed_form derived rfl).2 with form | ⟨_,_,_,_,other⟩
  · rw [tokens,erase_index,List.append_assoc] at form
    obtain ⟨front,inner,same,held,inside⟩ := form
    obtain ⟨rfl,rfl⟩ := key.tokens_balanced.last_unique inside.balanced rfl same
    exact ⟨held,inside⟩
  · cases other

private theorem numeral_of_tokens {text : List Char} {digits : String}
    (same : Number.tokens text = [.number digits]) :
    (∀ c ∈ text, c.isDigit = true) ∧ digits = String.ofList text := by
  unfold Number.tokens at same
  split at same
  · next none =>
    simp only [List.cons.injEq,Token.number.injEq,and_true] at same
    exact ⟨List.dropWhile_eq_nil_iff.mp none,same.symm⟩
  · simp at same
  · simp at same
  · simp at same

private theorem Expr.printable_of_number {value : Float}
    (derived : Derives (number value span).tokens (.expression (number value span).erase)) :
    (number value span).Printable := by
  rcases (printed_form derived rfl).2 with form | ⟨_,_,_,_,other⟩
  · rw [tokens,erase_number] at form
    obtain ⟨digits,same,read⟩ := form
    obtain ⟨numeral,rfl⟩ := numeral_of_tokens same
    rw [String.ofList_toList] at read
    refine ⟨⟨?_,numeral⟩,read⟩
    intro empty
    rw [String.toList_eq_nil_iff.mp empty] at read
    cases read
  · cases other

end

theorem Expr.printable_of_derives (derived : Derives tree.tokens (.expression tree.erase)) :
    tree.Every Printable := by
  induction tree using Expr.induct with
  | number value span => exact every_number.mpr (printable_of_number derived)
  | identifier name => exact every_identifier.mpr trivial
  | assign target value span first second =>
    obtain ⟨assigned,assigning⟩ := parts_of_assign derived
    have free : target.isAssign = false := by
      simpa [Phrase.admits] using (printed_form assigned rfl).1
    exact every_assign.mpr ⟨free,first (assigned.lift rfl),second assigning⟩
  | binary operator left right span first second =>
    obtain ⟨before,after⟩ := operands_of_binary derived
    have tight : left.isLoose = false := by
      simpa [Phrase.admits] using (printed_form before rfl).1
    have tight' : right.isLoose = false := by
      simpa [Phrase.admits] using (printed_form after rfl).1
    exact every_binary.mpr
      ⟨⟨tight,tight'⟩,first (before.lift rfl),second (after.lift rfl)⟩
  | object properties span inside =>
    refine every_object.mpr ⟨trivial,?_⟩
    intro property member
    have single := parts_of_object derived property member
    cases property with
    | shorthand key place => exact Property.every_shorthand
    | valued key value place =>
      exact Property.every_valued.mpr (inside key value place member (value_of_property single))
  | call callee given span first inside =>
    obtain ⟨called,each⟩ := parts_of_call derived
    have tight : callee.isLoose = false := by
      simpa [Phrase.admits] using (printed_form called rfl).1
    exact every_call.mpr ⟨tight,first (called.lift rfl),
      fun argument member => inside argument member (each argument member)⟩
  | member object name span first =>
    have held := parts_of_member derived
    have tight : object.isLoose = false ∧ object.isCall = false := by
      simpa [Phrase.admits] using (printed_form held rfl).1
    exact every_member.mpr ⟨tight,first (held.lift rfl)⟩
  | index object key span first second =>
    obtain ⟨held,inside⟩ := parts_of_index derived
    have tight : object.isLoose = false ∧ object.isCall = false := by
      simpa [Phrase.admits] using (printed_form held rfl).1
    exact every_index.mpr ⟨tight,first (held.lift rfl),second inside⟩

end Scriptlet
