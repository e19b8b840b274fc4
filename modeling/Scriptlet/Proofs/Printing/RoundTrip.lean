import Scriptlet.Proofs.Parser.Entries
import Scriptlet.Proofs.Printing.Printable

/-! Which programs are read back from their printed text: exactly the printable ones. -/
namespace Scriptlet
open Grammar

def Program.Printable (program : Program) : Prop :=
  ∀ statement ∈ program.statements, ∀ node ∈ statement.nodes, node.Printable

variable {tokens : List Token}

/-! Statements end at their semicolons. -/

private theorem sentence_of_printable {statement : Statement} (legible : statement.Legible)
    (printable : statement.Every Expr.Printable) :
    Sentence statement.tokens statement.erase true := by
  cases statement with
  | expression content =>
    exact .ended (Expr.expression_of_phrase (Expr.derives_of_printable printable))
  | declaration content =>
    obtain ⟨name,constant,value,span⟩ := content
    obtain ⟨_,free,_⟩ := legible
    cases value with
    | none =>
      obtain rfl : constant = false := free rfl
      exact .uninitialised
    | some value =>
      have inside := Expr.expression_of_phrase (Expr.derives_of_printable printable)
      have sentence := @Sentence.initialised (if constant then .constWord else .letWord) name.name
        _ _ (by cases constant <;> rfl) inside
      cases constant <;> exact sentence

private theorem sentences_of_printable {statements : List Statement}
    (legible : ∀ statement ∈ statements, statement.Legible)
    (printable : ∀ statement ∈ statements, statement.Every Expr.Printable) :
    Sentences true (statements.flatMap Statement.tokens) (statements.map Statement.erase) := by
  induction statements with
  | nil => exact .none
  | cons statement others ih =>
    obtain ⟨first,later⟩ := List.forall_mem_cons.mp legible
    obtain ⟨first',later'⟩ := List.forall_mem_cons.mp printable
    exact .more (sentence_of_printable first first') (fun _ => .inl rfl) (ih later later')

private theorem printable_of_sentence {statement : Statement}
    (sentence : Sentence statement.tokens statement.erase true) :
    statement.Every Expr.Printable := by
  generalize same : statement.tokens = tokens at sentence
  cases statement with
  | expression content =>
    rw [Statement.erase_expression] at sentence
    cases sentence with
    | ended inside =>
      obtain rfl := List.append_cancel_right same
      exact Expr.printable_of_derives inside
  | declaration content =>
    obtain ⟨name,constant,value,span⟩ := content
    cases value with
    | none => simp [Statement.Every,Statement.nodes]
    | some value =>
      rw [Statement.erase_declaration,Option.map_some] at sentence
      cases sentence with
      | initialised reserved inside =>
        simp only [Statement.tokens,Declaration.tokens] at same
        obtain ⟨_,same⟩ := List.cons.inj (List.append_cancel_right same)
        obtain ⟨_,same⟩ := List.cons.inj same
        obtain ⟨_,rfl⟩ := List.cons.inj same
        exact Expr.printable_of_derives inside

private theorem Statement.tokens_ended (statement : Statement) :
    ∃ body, statement.tokens = body ++ [.semicolon] := by
  cases statement with
  | expression content => exact ⟨_,rfl⟩
  | declaration content =>
    obtain ⟨name,constant,value,span⟩ := content
    cases value with
    | none => exact ⟨[_,_],rfl⟩
    | some value => exact ⟨_,rfl⟩

private theorem Statement.semicolons_ge (statements : List Statement) :
    statements.length ≤ (statements.flatMap Statement.tokens).count .semicolon := by
  induction statements with
  | nil => simp
  | cons statement others ih =>
    obtain ⟨body,same⟩ := statement.tokens_ended
    rw [List.flatMap_cons,same]
    simp only [List.length_cons,List.count_append,List.count_singleton_self]
    omega

private theorem sentence_ended {statement : Statement} {ended : Bool}
    (sentence : Sentence tokens statement ended) :
    ended = true ∧ (∃ body, tokens = body ++ [.semicolon] ∧ body.count .semicolon = 0) ∨
      tokens.count .semicolon = 0 := by
  cases sentence with
  | @initialised keyword _ _ _ reserved inside =>
    have free := inside.semicolon_not_mem
    have word : keyword ≠ .semicolon := by
      intro same
      simp [same,Token.isReserved] at reserved
    exact .inl ⟨rfl,_,rfl,List.count_eq_zero.mpr (by simp [free,word.symm])⟩
  | uninitialised => exact .inl ⟨rfl,[_,_],rfl,by simp⟩
  | ended inside => exact .inl ⟨rfl,_,rfl,List.count_eq_zero.mpr inside.semicolon_not_mem⟩
  | unended inside => exact .inr (List.count_eq_zero.mpr inside.semicolon_not_mem)

private theorem semicolons_le {apart : Bool} {statements : List Statement}
    (sentences : Sentences apart tokens statements) :
    tokens.count .semicolon ≤ statements.length := by
  induction sentences with
  | none => simp
  | more first _ _ ih =>
    rw [List.count_append,List.length_cons]
    rcases sentence_ended first with ⟨_,body,rfl,free⟩ | free
    · rw [List.count_append,free,List.count_singleton_self]
      omega
    · omega

private theorem printable_of_sentences {statements : List Statement}
    (sentences : Sentences false (statements.flatMap Statement.tokens)
      (statements.map Statement.erase)) :
    ∀ statement ∈ statements, statement.Every Expr.Printable := by
  induction statements with
  | nil => simp
  | cons statement others ih =>
    rw [List.forall_mem_cons]
    rw [List.flatMap_cons,List.map_cons] at sentences
    generalize same : statement.tokens ++ others.flatMap Statement.tokens = tokens at sentences
    cases sentences with
    | @more front back _ _ ended first _ rest =>
      obtain ⟨body,printed⟩ := statement.tokens_ended
      have most := semicolons_le rest
      have least := Statement.semicolons_ge others
      rw [List.length_map] at most
      -- There is a semicolon for every printed statement, so that no sentence lacks its own.
      rcases sentence_ended first with ⟨rfl,body',rfl,free⟩ | free
      · rw [printed,List.append_assoc,List.append_assoc] at same
        have fewer : body'.count .semicolon ≤ body.count .semicolon := by omega
        have fewer' : back.count .semicolon ≤
            (others.flatMap Statement.tokens).count .semicolon := by omega
        obtain ⟨rfl,rfl⟩ := @split_unique (· == .semicolon) _ _ _ _ _ _ same.symm rfl rfl
          fewer fewer'
        exact ⟨printable_of_sentence (printed ▸ first),ih rest⟩
      · have count := congrArg (List.count Token.semicolon) same
        simp only [printed,List.count_append,List.count_singleton_self] at count
        omega

/-! Programs and their texts. -/

private theorem legible_of_parsed {source : String} {program : Program}
    (parsed : parseText source = .ok program) :
    ∀ statement ∈ program.statements, statement.Legible := by
  obtain ⟨rest,run,_⟩ := parse_ok.mp parsed
  obtain ⟨tokens,taken,⟨sentences,_⟩,_⟩ :=
    Parser.program_yields (Stream.ofText_steady source) run
  obtain ⟨lexemes,rfl,_,held,_⟩ := taken
  rw [Stream.ofText_tokens] at held
  have spelt : ∀ token ∈ lexemes.map (·.token), Spelt token := by
    rw [List.forall_mem_map]
    intro lexeme member
    exact (Cursor.ofText source).scan_spelt lexeme (by simp [held,member])
  intro statement member
  apply Statement.legible_of_erase
  apply sentences.legible spelt
  exact List.mem_map_of_mem member

/-- Tokens that a text spells are parsed in its place. -/
theorem parseText_of_spells {source : String} (spelt : Spells source.toList tokens) :
    ∃ lexemes span, parseText source = parseLexemes (lexemes ++ [⟨.eof,span⟩]) ∧
      lexemes.map (·.token) = tokens ∧ ∀ lexeme ∈ lexemes, lexeme.token ≠ .eof := by
  obtain ⟨lexemes,span,scanned,same⟩ := Cursor.scans_of_spells spelt (Cursor.ofText_chars source)
  have tokenized : tokenize source = .ok (lexemes ++ [⟨.eof,span⟩]) := by
    rw [tokenize,scanned]
  have parsed := parse_of_tokenize tokenized []
  obtain ⟨inner,final,held,_,apart⟩ := (Cursor.ofText source).scan_ends.1 (by rw [scanned])
  rw [scanned] at held
  obtain ⟨rfl,_⟩ := List.append_inj' held rfl
  exact ⟨lexemes,span,by simpa using parsed,same,apart⟩

/-- A program is read back from its printed text exactly if it is printable. -/
theorem printing_round_trip {source : String} {program : Program}
    (parsed : parseText source = .ok program) :
    (∃ again, parseText program.source = .ok again ∧ again.erase = program.erase) ↔
      program.Printable := by
  have legible := legible_of_parsed parsed
  obtain ⟨lexemes,span,same,tokens,inner⟩ := parseText_of_spells (spells_program legible)
  rw [same]
  constructor
  · intro readBack
    obtain ⟨again,ok,erased⟩ := readBack
    have whole := parseLexemes_sound inner ok
    rw [erased,tokens] at whole
    exact printable_of_sentences whole.1
  · intro printable
    have sentences := sentences_of_printable legible printable
    exact parseLexemes_complete inner ⟨tokens ▸ sentences,rfl⟩

set_option maxRecDepth 2000 in
/-- A call within an operation comes back; an assignment within an operation takes the rest of
it along. -/
theorem printing_keeps_call_not_assignment :
    let named (name : String) (start : UInt32) : Expr := .identifier ⟨name,⟨start,start + 1⟩⟩
    let call : Program :=
      ⟨[.expression (.index (.binary .plus (.call (named "a" 1) [named "b" 3] ⟨1,5⟩)
        (named "c" 8) ⟨1,9⟩) (named "d" 11) ⟨1,13⟩)],⟨0,13⟩⟩
    let assignment : Program :=
      ⟨[.expression (.binary .plus (.assign (named "a" 1) (named "b" 5) ⟨1,6⟩)
        (named "c" 10) ⟨1,11⟩)],⟨0,11⟩⟩
    (parseText "(a(b) + c)[d]" = .ok call ∧
      ∃ again, parseText call.source = .ok again ∧ again.erase = call.erase) ∧
    (parseText "(a = b) + c" = .ok assignment ∧
      ¬ ∃ again, parseText assignment.source = .ok again ∧ again.erase = assignment.erase) := by
  intro named call assignment
  have first : parseText "(a(b) + c)[d]" = .ok call := by cbv
  have second : parseText "(a = b) + c" = .ok assignment := by cbv
  refine ⟨⟨first,(printing_round_trip first).mpr ?_⟩,second,?_⟩
  · simp [call,named,Program.Printable,Statement.nodes,Expr.nodes,Expr.Printable,Expr.isLoose,
      Expr.isAssign,Expr.isObject,Expr.isCall]
  · rw [printing_round_trip second]
    simp [assignment,named,Program.Printable,Statement.nodes,Expr.nodes,Expr.Printable,Expr.isLoose,
      Expr.isAssign]

end Scriptlet
