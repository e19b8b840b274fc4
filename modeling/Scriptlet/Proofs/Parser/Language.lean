import Scriptlet.Proofs.Parser.Completeness

/-! The language of the parser: it accepts exactly the programs of the grammar, and returns
the tree the grammar gives them. -/
namespace Scriptlet
open Grammar

namespace Parser
open Scriptlet.Stream

variable {stream middle rest : Stream} {tokens : List Token}

private theorem parses_declaration {opening : Lexeme} {content : Declaration}
    (found : stream.current = some opening) (reserved : opening.token.isReserved = true)
    (inside : Parses declaration stream content rest) :
    Parses statement stream (.declaration content) rest := by
  obtain ⟨least,ok⟩ := inside
  refine ⟨least,?_⟩
  intro bound enough
  exact statement_ok.mpr ⟨opening,found,.inl ⟨reserved,content,ok bound enough,rfl⟩⟩

private theorem parses_expression {opening : Lexeme} {tree : Expr}
    (found : stream.current = some opening) (free : opening.token.isReserved = false)
    (inside : Parses expression stream tree middle)
    (done : (if middle.isAt .semicolon then middle.step else middle) = rest) :
    Parses statement stream (.expression tree) rest := by
  obtain ⟨least,ok⟩ := inside
  refine ⟨least,?_⟩
  intro bound enough
  exact statement_ok.mpr
    ⟨opening,found,.inr ⟨free,tree,middle,ok bound enough,rfl,done⟩⟩

theorem parses_noStatement (ended : stream.notEof = false) :
    Parses statements stream [] stream := by
  apply Parses.of_succ
  intro bound (_ : 0 ≤ bound)
  exact statements_ok.mpr (.inl ⟨ended,rfl,rfl⟩)

theorem parses_moreStatements {first : Statement} {others : List Statement}
    (more : stream.notEof = true) (head : Parses statement stream first middle)
    (tail : Parses statements middle others rest) :
    Parses statements stream (first :: others) rest := by
  obtain ⟨least,ok⟩ := head
  obtain ⟨least',ok'⟩ := tail
  apply Parses.of_succ
  intro bound (enough : max least least' ≤ bound)
  exact statements_ok.mpr (.inr
    ⟨more,first,middle,others,ok bound (by omega),ok' bound (by omega),rfl⟩)

private theorem expression_starts {tree : Expr} (derived : Derives tokens (.expression tree))
    (taken : stream.Takes tokens rest) :
    ∃ opening, stream.current = some opening ∧ opening.token.isReserved = false := by
  obtain ⟨first,more,rfl⟩ := List.exists_cons_of_ne_nil (derived.ne_nil (by simp))
  have opened := derived.opens first rfl
  obtain ⟨span,found,_⟩ := taken.uncons
  refine ⟨_,found,?_⟩
  cases first <;> simp_all [Phrase.opens,opensExpression,opensOperand,Token.isReserved]

private theorem initialised_parses {keyword : Token} {name : String} {value : Expr}
    (reserved : keyword.isReserved = true) (inside : Derives tokens (.expression value))
    (taken : stream.Takes (keyword :: .ident name :: .equals :: tokens ++ [.semicolon]) rest) :
    ∃ parsed, parsed.erase =
        .declaration ⟨⟨name,Span.empty⟩,keyword = .constWord,some value,Span.empty⟩ ∧
      Parses statement stream parsed rest := by
  obtain ⟨opening,found,taken⟩ := taken.uncons
  obtain ⟨span,named,taken⟩ := taken.uncons
  obtain ⟨place,equals,taken⟩ := taken.uncons
  obtain ⟨middle,within,ended⟩ := taken.split
  obtain ⟨closing,closed,ended⟩ := ended.uncons
  obtain rfl := ended.nil
  obtain ⟨parsed,rfl,least,ok⟩ :=
    recognised inside within (by simp [grip_of_current closed,Token.grip])
  refine ⟨.declaration ⟨⟨name,span⟩,keyword = .constWord,some parsed,⟨opening.start,closing.stop⟩⟩,
    Statement.erase_declaration,parses_declaration found reserved ⟨least,?_⟩⟩
  intro bound enough
  exact declaration_ok.mpr ⟨_,name,span,found,named,
    .inr ⟨place,parsed,middle,closing,equals,ok bound enough,closed,rfl,rfl⟩⟩

private theorem uninitialised_parses {name : String}
    (taken : stream.Takes [.letWord,.ident name,.semicolon] rest) :
    ∃ parsed, parsed.erase = .declaration ⟨⟨name,Span.empty⟩,false,none,Span.empty⟩ ∧
      Parses statement stream parsed rest := by
  obtain ⟨opening,found,taken⟩ := taken.uncons
  obtain ⟨span,named,taken⟩ := taken.uncons
  obtain ⟨closing,closed,ended⟩ := taken.uncons
  obtain rfl := ended.nil
  refine ⟨.declaration ⟨⟨name,span⟩,false,none,⟨opening.start,closing.stop⟩⟩,
    Statement.erase_declaration,parses_declaration found rfl ⟨0,?_⟩⟩
  intro bound _
  exact declaration_ok.mpr ⟨_,name,span,found,named,.inl ⟨closing,by simp,closed,rfl,rfl⟩⟩

/-- A statement is parsed to its tree; without a semicolon of its own, only where no token
behind it belongs to it. -/
theorem statement_parses {tree : Statement} {ended : Bool}
    (sentence : Sentence tokens tree ended) (taken : stream.Takes tokens rest)
    (loose : ended = false → rest.grip = 0 ∧ rest.isAt .semicolon = false) :
    ∃ parsed, parsed.erase = tree ∧ Parses statement stream parsed rest := by
  cases sentence with
  | initialised reserved inside => exact initialised_parses reserved inside taken
  | uninitialised => exact uninitialised_parses taken
  | ended inside =>
    obtain ⟨middle,within,closing⟩ := taken.split
    obtain ⟨span,semicolon,closing⟩ := closing.uncons
    obtain rfl := closing.nil
    obtain ⟨opening,found,free⟩ := expression_starts inside within
    obtain ⟨parsed,rfl,ok⟩ :=
      recognised inside within (by simp [grip_of_current semicolon,Token.grip])
    exact ⟨_,Statement.erase_expression,
      parses_expression found free ok (if_pos (isAt_iff.mpr ⟨span,semicolon⟩))⟩
  | unended inside =>
    obtain ⟨opening,found,free⟩ := expression_starts inside taken
    obtain ⟨parsed,rfl,ok⟩ := recognised inside taken (loose rfl).1
    exact ⟨_,Statement.erase_expression,
      parses_expression found free ok (if_neg (by simp [(loose rfl).2]))⟩

private theorem loose_of_ended (ended : stream.notEof = false) :
    stream.grip = 0 ∧ stream.isAt .semicolon = false := by
  unfold Stream.grip
  cases semicolon : stream.isAt .semicolon with
  | true =>
    obtain ⟨span,found⟩ := isAt_iff.mp semicolon
    simp [notEof_of_current found] at ended
  | false =>
    cases found : stream.current with
    | none => simp
    | some lexeme =>
      have final : lexeme.token = .eof := by simpa [notEof_of_current found] using ended
      simp [final,Token.grip]

/-- A statement without a semicolon ends where the next one begins. -/
theorem loose_of_sentences {strict : Bool} {others : List Token} {trees : List Statement}
    (sentences : Sentences strict others trees) (apart : others.head? ≠ some .leftParen)
    (taken : stream.Takes others rest) (ended : rest.notEof = false) :
    stream.grip = 0 ∧ stream.isAt .semicolon = false := by
  cases sentences with
  | none =>
    obtain rfl := taken.nil
    exact loose_of_ended ended
  | @more tokens others _ _ _ sentence _ _ =>
    obtain ⟨first,more,rfl⟩ := List.exists_cons_of_ne_nil sentence.ne_nil
    have opened := sentence.opens first rfl
    obtain ⟨span,found,_⟩ := taken.uncons
    rw [grip_of_current found,isAt_of_current found]
    cases first <;>
      simp_all [opensStatement,opensExpression,opensOperand,Token.isReserved,Token.grip]

theorem statements_parse {trees : List Statement} (sentences : Sentences true tokens trees)
    (taken : stream.Takes tokens rest) (ended : rest.notEof = false) :
    ∃ parsed, parsed.map Statement.erase = trees ∧ Parses statements stream parsed rest := by
  induction sentences generalizing stream with
  | none =>
    obtain rfl := taken.nil
    exact ⟨[],rfl,parses_noStatement ended⟩
  | more sentence separate more ih =>
    obtain ⟨middle,before,after⟩ := taken.split
    obtain ⟨parsed,rfl,head⟩ := statement_parses sentence before (by
      intro open'
      have apart := (separate rfl).resolve_left (by simp [open'])
      exact loose_of_sentences more apart after ended)
    obtain ⟨others,rfl,tail⟩ := ih after
    refine ⟨parsed :: others,rfl,parses_moreStatements ?_ head tail⟩
    obtain ⟨first,later,rfl⟩ := List.exists_cons_of_ne_nil sentence.ne_nil
    obtain ⟨span,found,_⟩ := before.uncons
    have inner : first ≠ .eof := by
      intro final
      have opened := sentence.opens first rfl
      simp [final,opensStatement,opensExpression,opensOperand,Token.isReserved] at opened
    simpa [notEof_of_current found] using inner

/-- A program of the grammar is parsed to its tree. -/
theorem program_parses {tree : Program} (steady : stream.Steady)
    (whole : WholeProgram true tokens tree) (taken : stream.Takes tokens rest)
    (ended : rest.notEof = false) :
    ∃ parsed, parsed.erase = tree ∧ run program stream = .ok parsed rest := by
  obtain ⟨sentences,placeless⟩ := whole
  obtain ⟨parsed,erased,least,ok⟩ := statements_parse sentences taken ended
  have enough : least ≤ max least (8 * stream.pending + 7) := Nat.le_max_left _ _
  refine ⟨_,?_,(run_program_eq steady (Nat.le_max_right _ _)).trans
    (program_ok.mpr ⟨parsed,ok _ enough,rfl⟩)⟩
  obtain ⟨_,_⟩ := tree
  exact Program.ext (by simpa using erased) (by simpa using placeless.symm)

/-- What a program is parsed from is a program of the grammar. -/
theorem program_yields {bound : Nat} {parsed : Program} (steady : stream.Steady)
    (ok : program bound stream = .ok parsed rest) :
    ∃ tokens, stream.Takes tokens rest ∧ WholeProgram false tokens parsed.erase ∧
      rest.notEof = false := by
  obtain ⟨content,inside,rfl⟩ := program_ok.mp ok
  obtain ⟨tokens,taken,sentences,ended⟩ := statements_yields steady inside
  exact ⟨tokens,taken,⟨by simpa using sentences,Program.erase_span⟩,ended⟩

end Parser

theorem Stream.ofLexemes_steady (lexemes : List Lexeme) : (Stream.ofLexemes lexemes).Steady :=
  steady_of_ending (by simp [ofLexemes])

private theorem takes_lexemes {lexemes : List Lexeme} (final : Lexeme) (more : List Lexeme)
    (inner : ∀ lexeme ∈ lexemes, lexeme.token ≠ .eof) :
    (Stream.ofLexemes (lexemes ++ final :: more)).Takes (lexemes.map (·.token))
      (Stream.ofLexemes (final :: more)) := by
  refine ⟨lexemes,rfl,?_,rfl,rfl,Stream.ofLexemes_steady _⟩
  intro member
  obtain ⟨lexeme,here,same⟩ := List.mem_map.mp member
  exact inner lexeme here same

theorem Feed.parse_of_ok {σ : Type} [Feed σ] {feed rest : σ} {parsed : Program}
    (ran : Parser.run Parser.program feed = .ok parsed rest) :
    Feed.parse feed = match Feed.fault rest with
      | some error => .error ⟨.lexical error,error.span⟩
      | none => .ok parsed := by
  unfold Feed.parse Parser.whole Parser.Production.whole
  rw [ran]
  cases fault : Feed.fault rest <;> simp only [fault]

theorem Feed.parse_of_error {σ : Type} [Feed σ] {feed rest : σ} {reason : ParseError}
    (ran : Parser.run Parser.program feed = .error reason rest) :
    Feed.parse feed = match Feed.fault rest with
      | some error => .error ⟨.lexical error,error.span⟩
      | none => .error reason := by
  unfold Feed.parse Parser.whole Parser.Production.whole
  rw [ran]
  cases fault : Feed.fault rest <;> simp only [fault]

theorem parse_of_ok {stream rest : Stream} {parsed : Program}
    (ran : Parser.run Parser.program stream = .ok parsed rest) :
    stream.parse = match rest.fault with
      | some error => .error ⟨.lexical error,error.span⟩
      | none => .ok parsed := Feed.parse_of_ok ran

theorem parse_of_error {stream rest : Stream} {reason : ParseError}
    (ran : Parser.run Parser.program stream = .error reason rest) :
    stream.parse = match rest.fault with
      | some error => .error ⟨.lexical error,error.span⟩
      | none => .error reason := Feed.parse_of_error ran

theorem parse_ok {stream : Stream} {parsed : Program} :
    stream.parse = .ok parsed ↔
      ∃ rest, Parser.run Parser.program stream = .ok parsed rest ∧ rest.fault = none := by
  cases ran : Parser.run Parser.program stream with
  | ok content rest =>
    rw [parse_of_ok ran]
    cases fault : rest.fault <;> simp [fault,and_assoc]
  | error reason rest =>
    rw [parse_of_error ran]
    cases rest.fault <;> simp

theorem fault_of_sound {stream : Stream} (sound : ∀ error, stream.ending ≠ .failed error) :
    stream.fault = none := by
  unfold Stream.fault
  split
  · rfl
  · next failed _ => exact (sound _ failed).elim
  · rfl

section
variable {lexemes : List Lexeme} {span : Span} (inner : ∀ lexeme ∈ lexemes, lexeme.token ≠ .eof)
include inner

theorem parseLexemes_sound {parsed : Program}
    (ok : parseLexemes (lexemes ++ [⟨.eof,span⟩]) = .ok parsed) :
    WholeProgram false (lexemes.map (·.token)) parsed.erase := by
  have taken := takes_lexemes ⟨.eof,span⟩ [] inner
  obtain ⟨rest,run,_⟩ := parse_ok.mp ok
  obtain ⟨tokens,reached,whole,ended⟩ := Parser.program_yields (Stream.ofLexemes_steady _) run
  have same : tokens = lexemes.map (·.token) :=
    (reached.front ended).trans (taken.front rfl).symm
  exact same ▸ whole

theorem parseLexemes_complete {tree : Program}
    (whole : WholeProgram true (lexemes.map (·.token)) tree) :
    ∃ parsed, parseLexemes (lexemes ++ [⟨.eof,span⟩]) = .ok parsed ∧ parsed.erase = tree := by
  have taken := takes_lexemes ⟨.eof,span⟩ [] inner
  obtain ⟨parsed,erased,run⟩ := Parser.program_parses (Stream.ofLexemes_steady _) whole taken rfl
  exact ⟨parsed,parse_ok.mpr ⟨_,run,fault_of_sound (by simp [Stream.ofLexemes])⟩,erased⟩

end

/-- The parser accepts only programs of the grammar, with the tree the grammar gives them, and
every program of the grammar in which no parenthesis follows an expression that lacks its
semicolon. -/
theorem parser_accepts_grammar {lexemes : List Lexeme} {span : Span}
    (inner : ∀ lexeme ∈ lexemes, lexeme.token ≠ .eof) :
    (∀ parsed, parseLexemes (lexemes ++ [⟨.eof,span⟩]) = .ok parsed →
      WholeProgram false (lexemes.map (·.token)) parsed.erase) ∧
    (∀ tree, WholeProgram true (lexemes.map (·.token)) tree →
      ∃ parsed, parseLexemes (lexemes ++ [⟨.eof,span⟩]) = .ok parsed ∧ parsed.erase = tree) := by
  constructor
  · intro parsed ok
    exact parseLexemes_sound inner ok
  · intro tree whole
    exact parseLexemes_complete inner whole

/-- Two subtractions and a call with a trailing statement: the first subtraction is done first. -/
theorem parser_accepts_subtractions :
    let lexemes : List Lexeme := [⟨.ident "a",⟨0,1⟩⟩,⟨.operator .minus,⟨1,2⟩⟩,
      ⟨.ident "b",⟨2,3⟩⟩,⟨.operator .minus,⟨3,4⟩⟩,⟨.ident "c",⟨4,5⟩⟩,
      ⟨.leftParen,⟨5,6⟩⟩,⟨.rightParen,⟨6,7⟩⟩,⟨.ident "d",⟨8,9⟩⟩]
    let named (name : String) : Expr := .identifier ⟨name,Span.empty⟩
    (∀ lexeme ∈ lexemes, lexeme.token ≠ .eof) ∧
    ∃ parsed, parseLexemes (lexemes ++ [⟨.eof,⟨9,9⟩⟩]) = .ok parsed ∧
      parsed.erase = ⟨[.expression (.binary .minus
          (.binary .minus (named "a") (named "b") Span.empty)
          (.call (named "c") [] Span.empty) Span.empty),
        .expression (named "d")],Span.empty⟩ := by
  intro lexemes named
  have inner : ∀ lexeme ∈ lexemes, lexeme.token ≠ .eof := by decide
  have name (text : String) : Derives [.ident text] (.callMember (named text)) :=
    .noCall (.noMember .identifier)
  have called : Derives [.ident "c",.leftParen,.rightParen]
      (.callMember (.call (named "c") [] Span.empty)) := .emptyCall (name "c")
  have first : Derives [.ident "a",.operator .minus,.ident "b"]
      (.additive (.binary .minus (named "a") (named "b") Span.empty)) :=
    .sum rfl (.product (.factor (name "a"))) (.factor (name "b"))
  have both : Derives [.ident "a",.operator .minus,.ident "b",.operator .minus,
      .ident "c",.leftParen,.rightParen] _ :=
    .plain (.operations (.sum rfl first (.factor called)))
  have last : Derives [.ident "d"] (.expression (named "d")) :=
    .plain (.operations (.product (.factor (name "d"))))
  exact ⟨inner,(parser_accepts_grammar inner).2 _
    ⟨.more (.unended both) (by simp) (.more (.unended last) (by simp) .none),rfl⟩⟩

end Scriptlet
