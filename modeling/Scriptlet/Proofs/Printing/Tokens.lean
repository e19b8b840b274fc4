import Mathlib.Data.List.TakeWhile
import Scriptlet.Proofs.Grammar
import Scriptlet.Proofs.Printing.Number
import Scriptlet.Proofs.Tree.Places

/-! The tokens that a printed tree is read as. A tree whose names are words of the language
spells them. -/
namespace Scriptlet

def Number.tokens (text : List Char) : List Token :=
  match text.dropWhile Char.isDigit with
  | [] => [.number (String.ofList text)]
  | '.' :: [] => [.number (String.ofList (text.takeWhile Char.isDigit)),.dot]
  | '.' :: fraction => [.number (String.ofList (text.takeWhile Char.isDigit)),.dot,
      .number (String.ofList fraction)]
  | _ => [.ident (String.ofList text)]

mutual
def Expr.tokens : Expr → List Token
  | .number value _ => Number.tokens (Number.plain.text value).toList
  | .identifier name => [.ident name.name]
  | .assign target value _ => target.tokens ++ .equals :: value.tokens
  | .binary operator left right _ =>
    .leftParen :: (left.tokens ++ .operator operator :: right.tokens) ++ [.rightParen]
  | .object properties _ =>
    .leftBrace :: [.comma].intercalate (propertyTokens properties) ++ [.rightBrace]
  | .call callee arguments _ =>
    callee.tokens ++ .leftParen :: [.comma].intercalate (argumentTokens arguments) ++ [.rightParen]
  | .member object property _ => object.tokens ++ [.dot,.ident property.name]
  | .index object key _ => object.tokens ++ .leftBracket :: key.tokens ++ [.rightBracket]
def propertyTokens : List Property → List (List Token)
  | [] => []
  | property :: rest => property.tokens :: propertyTokens rest
def argumentTokens : List Expr → List (List Token)
  | [] => []
  | argument :: rest => argument.tokens :: argumentTokens rest
def Property.tokens : Property → List Token
  | .shorthand key _ => [.ident key]
  | .valued key value _ => .ident key :: .colon :: value.tokens
end

def Declaration.tokens (declaration : Declaration) : List Token :=
  let keyword := if declaration.constant then .constWord else .letWord
  match declaration.value with
  | some value =>
    keyword :: .ident declaration.identifier.name :: .equals :: value.tokens ++ [.semicolon]
  | none => [keyword,.ident declaration.identifier.name,.semicolon]

def Statement.tokens : Statement → List Token
  | .declaration content => content.tokens
  | .expression content => content.tokens ++ [.semicolon]

def Program.tokens (program : Program) : List Token := program.statements.flatMap Statement.tokens

@[simp] theorem propertyTokens_eq (properties : List Property) :
    propertyTokens properties = properties.map Property.tokens := by
  induction properties with
  | nil => rfl
  | cons property rest ih => simp [propertyTokens,ih]

@[simp] theorem argumentTokens_eq (arguments : List Expr) :
    argumentTokens arguments = arguments.map Expr.tokens := by
  induction arguments with
  | nil => rfl
  | cons argument rest ih => simp [argumentTokens,ih]

/-! Names and numbers as the language has them. -/

/-- Names are words, and numbers have no sign. -/
def Expr.Legible : Expr → Prop
  | .number value _ => Number.isNegative value = false
  | .identifier name => Spelt (.ident name.name)
  | .object properties _ => ∀ property ∈ properties, Spelt (.ident property.key)
  | .member _ property _ => Spelt (.ident property.name)
  | _ => True

def Statement.Legible : Statement → Prop
  | .declaration content => Spelt (.ident content.identifier.name) ∧
      (content.value = none → content.constant = false) ∧
      ∀ value ∈ content.value, value.Every Expr.Legible
  | .expression content => content.Every Expr.Legible

private theorem Expr.legible_erase (tree : Expr) : tree.erase.Legible ↔ tree.Legible := by
  have keys (property : Property) : property.erase.key = property.key := by
    cases property <;> simp [Property.key]
  cases tree <;> simp [Legible,keys]

theorem Statement.legible_of_erase {statement : Statement} (legible : statement.erase.Legible) :
    statement.Legible := by
  cases statement with
  | expression content => exact Expr.every_of_erase (fun node => node.legible_erase.mp) legible
  | declaration content =>
    obtain ⟨identifier,constant,value,span⟩ := content
    cases value with
    | none => simpa [Legible] using legible
    | some value =>
      obtain ⟨name,_,nodes⟩ := legible
      refine ⟨name,by simp,?_⟩
      intro _ member
      obtain rfl := Option.some.inj member
      exact Expr.every_of_erase (fun node => node.legible_erase.mp) (nodes _ rfl)

namespace Grammar

def Phrase.Legible : Phrase → Prop
  | .properties trees => ∀ property ∈ trees,
      Spelt (.ident property.key) ∧ property.Every Expr.Legible
  | .property tree => Spelt (.ident tree.key) ∧ tree.Every Expr.Legible
  | .arguments trees => ∀ tree ∈ trees, tree.Every Expr.Legible
  | .expression tree | .assignee tree | .additive tree | .multiplicative tree | .callMember tree
  | .member tree | .primary tree => tree.Every Expr.Legible

theorem Derives.legible {tokens : List Token} {phrase : Phrase} (derived : Derives tokens phrase)
    (spelt : ∀ token ∈ tokens, Spelt token) : phrase.Legible := by
  induction derived with
  | object _ ih =>
    have inside := ih (by simp_all)
    simp only [Phrase.Legible,Expr.every_object,Expr.Legible] at inside ⊢
    exact ⟨fun property member => (inside property member).1,
      fun property member => (inside property member).2⟩
  | moreProperties _ _ first rest =>
    intro property member
    rcases List.mem_cons.mp member with rfl | later
    · exact first (by simp_all)
    · exact rest (by simp_all) property later
  | @number digits _ read =>
    have numeral : Spelt (.number digits) := spelt _ (by simp)
    exact Expr.every_number.mpr (Number.read_positive numeral read)
  | _ => simp_all [Phrase.Legible,Expr.Legible,Property.key]

theorem Sentence.legible {tokens : List Token} {statement : Statement} {ended : Bool}
    (sentence : Sentence tokens statement ended) (spelt : ∀ token ∈ tokens, Spelt token) :
    statement.Legible := by
  cases sentence with
  | initialised reserved inside =>
    have legible := inside.legible (by simp_all)
    exact ⟨spelt _ (by simp),by simp,by simpa [Phrase.Legible] using legible⟩
  | uninitialised => exact ⟨spelt _ (by simp),fun _ => rfl,by simp⟩
  | ended inside => exact inside.legible (by simp_all)
  | unended inside => exact inside.legible spelt

theorem Sentences.legible {apart : Bool} {tokens : List Token} {statements : List Statement}
    (sentences : Sentences apart tokens statements) (spelt : ∀ token ∈ tokens, Spelt token) :
    ∀ statement ∈ statements, statement.Legible := by
  induction sentences with
  | none => simp
  | more first _ _ ih =>
    have head := first.legible (by simp_all)
    have tail := ih (by simp_all)
    exact List.forall_mem_cons.mpr ⟨head,tail⟩

end Grammar

/-! The text of a tree spells its tokens. -/

def Apart (chars : List Char) : Prop :=
  ∀ c ∈ chars.head?, c.isDigit = false ∧ Text.isAlphabetic c = false

private theorem apart_cons {c : Char} {chars : List Char}
    (free : (c.isDigit || Text.isAlphabetic c) = false) : Apart (c :: chars) := by
  intro first head
  obtain rfl := Option.some.inj head
  exact Bool.or_eq_false_iff.mp free

/-- The text spells the tokens, whatever stands apart behind it. -/
def Writes (text : List Char) (tokens : List Token) : Prop :=
  ∀ ⦃chars rest⦄, Apart chars → Spells chars rest → Spells (text ++ chars) (tokens ++ rest)

private theorem writes_name {name : String} (spelt : Spelt (.ident name)) :
    Writes name.toList [.ident name] := by
  intro chars rest apart following
  have word := Spells.word spelt.1 (fun c head => (apart c head).2) following
  simpa [Cursor.wordToken,spelt.2] using word

private theorem writes_numeral {digits : List Char} (numeral : IsNumeral digits) :
    Writes digits [.number (String.ofList digits)] := by
  intro chars rest apart following
  exact .numeral numeral (fun c head => (apart c head).1) following

private theorem numberTokens_word {letters : List Char} (read : IsWord letters) :
    Number.tokens letters = [.ident (String.ofList letters)] := by
  obtain ⟨_,first,others,rfl,_,single,digit⟩ := read
  have dot : first ≠ '.' := by
    intro same
    simp [same,Token.symbol?] at single
  simp [Number.tokens,digit,dot]

theorem numberTokens_numeral {digits : List Char} (numeral : ∀ c ∈ digits, c.isDigit = true) :
    Number.tokens digits = [.number (String.ofList digits)] := by
  rw [Number.tokens,List.dropWhile_eq_nil_iff.mpr numeral]

private theorem numberTokens_parts {digits fraction : List Char}
    (numeral : ∀ c ∈ digits, c.isDigit = true) : Number.tokens (digits ++ '.' :: fraction) =
      .number (String.ofList digits) :: .dot ::
        (if fraction = [] then [] else [.number (String.ofList fraction)]) := by
  have point : Char.isDigit '.' = false := by decide
  simp only [Number.tokens,List.dropWhile_append_of_pos numeral,
    List.takeWhile_append_of_pos numeral,List.dropWhile_cons,List.takeWhile_cons,point,
    Bool.false_eq_true,if_false,List.append_nil]
  cases fraction <;> simp

private theorem writes_number {text : List Char} (shape : Number.Shape text) :
    Writes text (Number.tokens text) := by
  cases shape with
  | word read free =>
    rw [numberTokens_word read]
    have spelt : Spelt (.ident (String.ofList text)) := ⟨by rwa [String.toList_ofList],free⟩
    have written := writes_name spelt
    rwa [String.toList_ofList] at written
  | whole read =>
    rw [numberTokens_numeral read.2]
    exact writes_numeral read
  | @parts digits fraction read others =>
    rw [numberTokens_parts read.2]
    intro chars rest apart following
    rw [List.append_assoc]
    apply writes_numeral read (apart_cons (by decide))
    apply Spells.symbol rfl
    split
    · next empty => simpa [empty] using following
    · next some => exact writes_numeral ⟨some,others⟩ apart following

private theorem writes_joined {Item : Type} {source : Item → String} {tokens : Item → List Token}
    {items : List Item} (each : ∀ item ∈ items, Writes (source item).toList (tokens item)) :
    Writes (String.intercalate ", " (items.map source)).toList
      ([.comma].intercalate (items.map tokens)) := by
  induction items with
  | nil =>
    intro chars rest _ following
    exact following
  | cons item others ih =>
    obtain ⟨first,later⟩ := List.forall_mem_cons.mp each
    cases others with
    | nil => simpa using first
    | cons next others =>
      intro chars rest apart following
      have inside := ih later apart following
      simp only [List.map_cons,String.intercalate_cons_cons,String.toList_append,
        List.intercalate_cons_cons,List.append_assoc] at inside ⊢
      exact first (apart_cons (by decide)) (.symbol rfl (.blank rfl inside))

private theorem symbol_operator (operator : Operator) :
    Token.symbol? operator.char = some (.operator operator) := by
  cases operator <;> rfl

private theorem writes_expression (tree : Expr) (legible : tree.Every Expr.Legible) :
    Writes tree.source.toList tree.tokens := by
  induction tree using Expr.induct with
  | number value span =>
    exact writes_number (Number.text_shape (Expr.every_number.mp legible))
  | identifier name => exact writes_name (Expr.every_identifier.mp legible)
  | assign target value span first second =>
    obtain ⟨_,left,right⟩ := Expr.every_assign.mp legible
    intro chars rest apart following
    have assigned := second right apart following
    simp only [Expr.source,Expr.tokens,String.toList_append,List.append_assoc]
    exact first left (apart_cons (by decide)) (.blank rfl (.symbol rfl (.blank rfl assigned)))
  | binary operator left right span first second =>
    obtain ⟨_,before,after⟩ := Expr.every_binary.mp legible
    intro chars rest apart following
    have closed : Spells (')' :: chars) (.rightParen :: rest) := .symbol rfl following
    have operand := second after (apart_cons (by decide)) closed
    simp only [Expr.source,Expr.tokens,Operator.text,String.toList_append,String.toList_singleton,
      List.append_assoc,List.cons_append]
    apply Spells.symbol rfl
    apply first before (apart_cons (by decide))
    exact .blank rfl (.symbol (symbol_operator operator) (.blank rfl operand))
  | object properties span inside =>
    obtain ⟨keys,values⟩ := Expr.every_object.mp legible
    have each : ∀ property ∈ properties, Writes property.source.toList property.tokens := by
      intro property member
      have key := writes_name (keys property member)
      have every := values property member
      cases property with
      | shorthand name place =>
        simp only [Property.source,Property.tokens]
        exact key
      | valued name value place =>
        intro chars rest apart following
        have valued :=
          inside name value place member (Property.every_valued.mp every) apart following
        simp only [Property.source,Property.tokens,String.toList_append,List.append_assoc]
        exact key (apart_cons (by decide)) (.symbol rfl (.blank rfl valued))
    intro chars rest apart following
    simp only [Expr.source,Expr.tokens,propertySources_eq,propertyTokens_eq]
    split
    · next none =>
      obtain rfl := List.isEmpty_iff.mp none
      exact .symbol rfl (.symbol rfl following)
    · have closed : Spells (' ' :: '}' :: chars) (.rightBrace :: rest) :=
        .blank rfl (.symbol rfl following)
      have joined := writes_joined each (apart_cons (by decide)) closed
      simp only [String.toList_append,List.append_assoc,List.cons_append]
      exact .symbol rfl (.blank rfl joined)
  | call callee given span first inside =>
    obtain ⟨_,called,values⟩ := Expr.every_call.mp legible
    have each : ∀ argument ∈ given, Writes argument.source.toList argument.tokens := by
      intro argument member
      exact inside argument member (values argument member)
    intro chars rest apart following
    have closed : Spells (')' :: chars) (.rightParen :: rest) := .symbol rfl following
    have joined := writes_joined each (apart_cons (by decide)) closed
    simp only [Expr.source,Expr.tokens,argumentSources_eq,argumentTokens_eq,String.toList_append,
      List.append_assoc]
    exact first called (apart_cons (by decide)) (.symbol rfl joined)
  | member object name span first =>
    obtain ⟨named,held⟩ := Expr.every_member.mp legible
    intro chars rest apart following
    have property := writes_name named apart following
    simp only [Expr.source,Expr.tokens,String.toList_append,List.append_assoc]
    exact first held (apart_cons (by decide)) (.symbol rfl property)
  | index object key span first second =>
    obtain ⟨_,held,computed⟩ := Expr.every_index.mp legible
    intro chars rest apart following
    have closed : Spells (']' :: chars) (.rightBracket :: rest) := .symbol rfl following
    have inside := second computed (apart_cons (by decide)) closed
    simp only [Expr.source,Expr.tokens,String.toList_append,List.append_assoc]
    exact first held (apart_cons (by decide)) (.symbol rfl inside)

theorem Spells.space {chars : List Char} {tokens : List Token} (rest : Spells chars tokens) :
    Spells (' ' :: chars) tokens := .blank rfl rest

private theorem writes_keyword (constant : Bool) :
    Writes (if constant then "const" else "let").toList
      [if constant then .constWord else .letWord] := by
  intro chars rest apart following
  have letters (c : Char) (head : c ∈ chars.head?) := (apart c head).2
  cases constant with
  | false =>
    exact @Spells.word ['l','e','t'] chars rest (isWord_of_all rfl rfl rfl rfl) letters following
  | true =>
    exact @Spells.word ['c','o','n','s','t'] chars rest (isWord_of_all rfl rfl rfl rfl) letters
      following

/-- A printed statement ends with its semicolon, so anything may follow it. -/
theorem spells_statement {statement : Statement} (legible : statement.Legible)
    {chars : List Char} {rest : List Token} (following : Spells chars rest) :
    Spells (statement.source.toList ++ chars) (statement.tokens ++ rest) := by
  have closed : Spells (';' :: chars) (.semicolon :: rest) := .symbol rfl following
  cases statement with
  | expression content =>
    have written := writes_expression content legible (apart_cons (by decide)) closed
    simpa [Statement.source,Statement.tokens] using written
  | declaration content =>
    obtain ⟨name,constant,value,span⟩ := content
    obtain ⟨named,_,inside⟩ := legible
    cases value with
    | none =>
      have declared := writes_name named (apart_cons (by decide)) closed
      have written := writes_keyword constant (apart_cons (by decide)) declared.space
      simpa [Statement.source,Statement.tokens,Declaration.source,Declaration.tokens] using written
    | some value =>
      have assigned := writes_expression value (inside _ rfl) (apart_cons (by decide)) closed
      have sign : Token.symbol? '=' = some .equals := rfl
      have declared := writes_name named (apart_cons (by decide))
        (Spells.symbol sign assigned.space).space
      have written := writes_keyword constant (apart_cons (by decide)) declared.space
      simpa [Statement.source,Statement.tokens,Declaration.source,Declaration.tokens] using written

theorem spells_program {program : Program}
    (legible : ∀ statement ∈ program.statements, statement.Legible) :
    Spells program.source.toList program.tokens := by
  obtain ⟨statements,span⟩ := program
  dsimp only [Program.source,Program.tokens]
  dsimp only at legible
  induction statements with
  | nil => exact .done
  | cons statement others ih =>
    obtain ⟨first,later⟩ := List.forall_mem_cons.mp legible
    have rest := ih later
    cases others with
    | nil => simpa using spells_statement first .done
    | cons next others =>
      simp only [List.map_cons,String.intercalate_cons_cons,String.toList_append,
        List.append_assoc,List.flatMap_cons] at rest ⊢
      exact spells_statement first (.blank rfl rest)

end Scriptlet
