import Scriptlet.Proofs.Parser.Entries
import Scriptlet.Proofs.Parser.Telling

/-! Errors at the first wrong token. A rejected program is rejected at a token such that what
stands before it can be continued to a program, and the token itself cannot stand there. -/
namespace Scriptlet
open Grammar

private theorem Grammar.Derives.eof_not_mem {tokens : List Token} {phrase : Phrase}
    (derived : Derives tokens phrase) : .eof ∉ tokens := by
  induction derived with
  | _ => simp_all

private theorem Grammar.Sentence.eof_not_mem {tokens : List Token} {statement : Statement}
    {ended : Bool}
    (sentence : Sentence tokens statement ended) : .eof ∉ tokens := by
  cases sentence with
  | initialised reserved inside =>
    have inner := Parser.reserved_ne_eof reserved
    simp [inside.eof_not_mem,inner.symm]
  | uninitialised => simp
  | ended inside => simp [inside.eof_not_mem]
  | unended inside => exact inside.eof_not_mem

namespace Parser
open Scriptlet.Stream

variable {stream middle rest : Stream} {reason : ParseError} {bound : Nat}

def IsSentence (tokens : List Token) : Prop := ∃ tree, Sentence tokens tree true

theorem tokens_of_current {lexeme : Lexeme} (steady : stream.Steady)
    (found : stream.current = some lexeme) (inner : lexeme.token ≠ .eof) :
    stream.tokens = lexeme :: stream.step.tokens := by
  obtain ⟨lexemes,parts,_,whole,_⟩ := Takes.one steady found inner
  obtain ⟨first,rfl,_⟩ := List.map_eq_singleton_iff.mp parts
  obtain rfl : first = lexeme := by simpa [current,whole] using found
  exact whole

private theorem constant_halts {name : String} {span opening place : Span} (steady : stream.Steady)
    (found : stream.current = some ⟨.constWord,opening⟩)
    (named : stream.step.current = some ⟨.ident name,span⟩)
    (closed : stream.step.step.current = some ⟨.semicolon,place⟩) :
    Halts (declaration bound) stream ⟨.missingConstValue,span⟩ rest IsSentence := by
  have opened := Takes.one steady found (by simp)
  have introduced := Takes.one opened.steady named (by simp)
  have whole : stream.tokens = [⟨.constWord,opening⟩,⟨.ident name,span⟩] ++
      ⟨.semicolon,place⟩ :: stream.step.step.step.tokens := by
    rw [tokens_of_current steady found (by simp),tokens_of_current opened.steady named (by simp),
      tokens_of_current introduced.steady closed (by simp)]
    rfl
  have blamed : Blames ⟨.missingConstValue,span⟩
      ([⟨.constWord,opening⟩] ++ [⟨.ident name,span⟩]) ⟨.semicolon,place⟩ := .constant
  refine .inr ⟨_,_,_,whole,blamed,?_,?_⟩
  · have valued : IsSentence ([.constWord,.ident name] ++ [.equals,.ident "a",.semicolon]) := by
      obtain ⟨_,derived⟩ := is_level (is_name "a") .lowest
      exact ⟨_,.initialised rfl (.plain (.operations derived))⟩
    exact ⟨_,valued⟩
  · intro other behind held
    have second := step_of_tokens held
    have third := step_of_tokens second
    have found' : other.current = some ⟨.constWord,opening⟩ := by simp [current,held]
    have named' : other.step.current = some ⟨.ident name,span⟩ := by simp [current,second]
    have closed' : other.step.step.current = some ⟨.semicolon,place⟩ := by simp [current,third]
    have taken : expectIdent other.step = .ok ⟨name,span⟩ other.step.step :=
      expectIdent_ok.mpr ⟨named',rfl⟩
    refine ⟨other.step.step,?_⟩
    rw [declaration,Production.declaration,take_bind,found']
    dsimp only
    rw [bind_of_ok taken,isAt_bind,if_pos (isAt_iff.mpr ⟨place,closed'⟩),if_pos rfl]
    rfl

def IsValue (tokens : List Token) : Prop :=
  ∃ inner tree, Derives inner (.expression tree) ∧ tokens = .equals :: inner ++ [.semicolon]

theorem IsValue.sentence {keyword : Token} {name : String} {tokens : List Token}
    (value : IsValue tokens) (reserved : keyword.isReserved = true) :
    IsSentence (keyword :: .ident name :: tokens) := by
  obtain ⟨inner,tree,derived,rfl⟩ := value
  exact ⟨_,.initialised reserved derived⟩

private theorem isValue_name : IsValue [.equals,.ident "a",.semicolon] := by
  obtain ⟨tree,derived⟩ := is_level (is_name "a") .lowest
  exact ⟨_,tree,.plain (.operations derived),rfl⟩

private theorem value_of_declaration_halts {build : Expr → Span → Declaration}
    (steady : stream.Steady)
    (enough : 8 * stream.pending ≤ bound)
    (failed : (do
      let _ ← expectToken .equals
      let value ← expression bound
      let closing ← expectToken .semicolon
      return build value closing) stream = .error reason rest) :
    Halts (do
      let _ ← expectToken .equals
      let value ← expression bound
      let closing ← expectToken .semicolon
      return build value closing) stream reason rest IsValue := by
  rcases bind_error.mp failed with failed | ⟨_,_,ok,failed⟩
  · apply Halts.mono ((expectToken_halts steady failed).first _)
    rintro _ rfl
    exact ⟨[.ident "a",.semicolon],isValue_name⟩
  · obtain ⟨equals,rfl⟩ := expectToken_ok.mp ok
    have started := Takes.one steady equals (by simp)
    have fewer := shorter_step steady equals (by simp)
    have steered := expectToken_steers steady equals (by simp)
    rcases bind_error.mp failed with failed | ⟨value,middle,ok,failed⟩
    · have inner := (telling bound).expression started.steady (by have := fewer.2; omega) failed
      apply Halts.mono (.after steered started steady (inner.first _))
      rintro _ ⟨tokens,⟨tree,derived⟩,rfl⟩
      exact ⟨[.semicolon],tokens,tree,derived,by simp⟩
    · obtain ⟨tokens,taken,derived⟩ := (sound bound).expression started.steady ok
      have inner := expectToken_halts taken.steady (bind_pure_error.mp failed)
      apply Halts.mono (.after steered started steady
        (.after (expression_steers ok) taken started.steady (inner.first _)))
      rintro _ ⟨_,⟨_,rfl,rfl⟩,rfl⟩
      exact ⟨[],tokens,_,derived,by simp⟩

private theorem declaration_halts {opening : Lexeme} (steady : stream.Steady)
    (enough : 8 * stream.pending + 6 ≤ bound) (found : stream.current = some opening)
    (reserved : opening.token.isReserved = true)
    (failed : declaration bound stream = .error reason rest) :
    Halts (declaration bound) stream reason rest IsSentence := by
  obtain ⟨keyword,place⟩ := opening
  have inner := reserved_ne_eof reserved
  have opened := Takes.one steady found inner
  have steered := take_steers steady found inner
  rw [declaration,Production.declaration] at failed ⊢
  rw [take_bind,found] at failed
  rcases bind_error.mp failed with failed | ⟨⟨name,span⟩,_,ok,failed⟩
  · have within := expectIdent_halts opened.steady failed
    apply Halts.mono (.after steered opened steady (within.first _))
    rintro _ ⟨_,⟨name,rfl⟩,rfl⟩
    exact ⟨_,isValue_name.sentence reserved⟩
  · obtain ⟨named,rfl⟩ := expectIdent_ok.mp ok
    have introduced := Takes.one opened.steady named (by simp)
    have fewer := (shorter_step opened.steady named (by simp)).trans
      (shorter_step steady found inner)
    rw [isAt_bind] at failed
    split at failed
    · next ended =>
      obtain ⟨closing,closed⟩ := isAt_iff.mp ended
      split at failed
      · next constant =>
        obtain ⟨rfl,_⟩ := EStateM.Result.error.inj failed
        obtain rfl : keyword = .constWord := constant
        have halted : Halts (declaration bound) stream ⟨.missingConstValue,span⟩ rest IsSentence :=
          constant_halts steady found named closed
        rwa [declaration] at halted
      · have again := bind_pure_error.mp failed
        rw [expectToken_ok.mpr ⟨closed,rfl⟩] at again
        cases again
    · next unended =>
      have within := value_of_declaration_halts introduced.steady (by have := fewer.2; omega) failed
      apply Halts.mono (.after steered opened steady
        (.after (expectIdent_steers opened.steady named) introduced opened.steady
          (.ifMissing (by simpa using unended) within)))
      rintro _ ⟨_,⟨tokens,value,rfl⟩,rfl⟩
      exact ⟨[],by simpa using value.sentence reserved⟩

private theorem statement_halts (steady : stream.Steady) (enough : 8 * stream.pending + 6 ≤ bound)
    (failed : statement bound stream = .error reason rest) :
    Halts (statement bound) stream reason rest IsSentence := by
  rw [statement,Production.statement,peek_bind] at failed
  cases found : stream.current with
  | none =>
    simp only [found,failAtEnd_run,EStateM.Result.error.injEq] at failed
    exact .inl (failed.2 ▸ exhausted_of_current steady found)
  | some lexeme =>
    rw [found] at failed
    dsimp only at failed
    split at failed
    · next reserved =>
      have inner := declaration_halts steady enough found reserved (bind_pure_error.mp failed)
      apply (inner.first fun content => pure (Statement.declaration content)).alike
      intro other shown
      rw [statement,Production.statement,peek_bind,shown.trans found]
      dsimp only
      rw [if_pos reserved]
    · next free =>
      have failed : expression bound stream = .error reason rest := by
        rcases bind_error.mp failed with failed | ⟨tree,middle,_,failed⟩
        · exact failed
        · rw [isAt_bind] at failed
          split at failed <;> cases failed
      have inner := (telling bound).expression steady enough failed
      have sentence : Halts (expression bound) stream reason rest IsSentence := by
        apply inner.mono
        rintro tokens ⟨tree,derived⟩
        exact ⟨[.semicolon],_,.ended derived⟩
      apply (sentence.first _).alike
      intro other shown
      rw [statement,Production.statement,peek_bind,shown.trans found]
      dsimp only
      rw [if_neg free]

/-! Statements one after the other. -/

/-- Some continuation of the tokens is a program, wherever its end token stands. -/
def Continues (before : List Lexeme) : Prop :=
  ∃ more, ∀ place, ∃ trees rest,
    Parses statements (Stream.ofLexemes (before ++ more ++ [⟨.eof,place⟩])) trees rest

private theorem continues_sentence {before : List Lexeme}
    (completable : Completable IsSentence before) :
    Continues before := by
  obtain ⟨more,tree,sentence⟩ := completable
  let lexemes : List Lexeme := more.map fun token => ⟨token,Span.empty⟩
  have tokens : (before ++ lexemes).map (·.token) = before.map (·.token) ++ more := by
    simp [lexemes,Function.comp_def]
  refine ⟨lexemes,fun place => ?_⟩
  have taken : (Stream.ofLexemes (before ++ lexemes ++ [⟨.eof,place⟩])).Takes
      (before.map (·.token) ++ more) (Stream.ofLexemes [⟨.eof,place⟩]) :=
    ⟨_,tokens,sentence.eof_not_mem,rfl,rfl,Stream.ofLexemes_steady _⟩
  have alone : Sentences true (before.map (·.token) ++ more) [tree] := by
    simpa using Sentences.more sentence (by simp) .none
  obtain ⟨parsed,_,ok⟩ := statements_parse alone taken rfl
  exact ⟨parsed,_,ok⟩

/-- A statement can be put in front of others if the same token follows it there, or the end. -/
theorem statement_continues {content : Statement} {lexemes behind beyond : List Lexeme}
    {stop fresh : Lexeme} {trees : List Statement} (steady : stream.Steady)
    (enough : 8 * stream.pending + 6 ≤ bound) (proper : stream.notEof = true)
    (ok : statement bound stream = .ok content middle)
    (whole : stream.tokens = lexemes ++ middle.tokens) (held : middle.tokens = stop :: behind)
    (loose : fresh = stop ∨ fresh.token = .eof)
    (onward : Parses statements (Stream.ofLexemes (fresh :: beyond)) trees rest) :
    ∃ trees, Parses statements (Stream.ofLexemes (lexemes ++ fresh :: beyond)) trees rest := by
  let seam : Seam := ⟨0,stop,behind,fresh,beyond,.closed⟩
  have unmoved : Lexeme.push seam.offset = id := Lexeme.push_zero
  have joined : seam.Joins stream (Stream.ofLexemes (lexemes ++ fresh :: beyond)) :=
    ⟨steady,lexemes,by simp [whole,held,seam],by simp [unmoved,Stream.ofLexemes,seam]⟩
  have free : seam.Open := by
    rcases loose with same | final
    · exact .inl (congrArg Lexeme.token same)
    · exact .inr (by simp [seam,final,Token.grip])
  have reached : seam.Reaches (seam.Open ∨ Ends stream middle) middle :=
    .inr ⟨.inl free,by simp [held,seam]⟩
  obtain ⟨tokens,_,taken,sentence⟩ := statement_yields steady ok
  obtain ⟨token,tokens,rfl⟩ := List.exists_cons_of_ne_nil sentence.ne_nil
  obtain ⟨middle',head,_,front,here,rfl⟩ := statement_parsed joined enough ok reached
  have none : front = [] := List.append_cancel_right (here.symm.trans held)
  have proper' := (joined.notEof_eq (reached.inside taken).reaches).trans proper
  subst none
  exact ⟨_,parses_moreStatements proper' head onward⟩

private theorem statement_steers {content : Statement}
    (ok : statement bound stream = .ok content middle) :
    Steers (statement bound) stream content middle := by
  intro seam other fixed same joined reached
  obtain ⟨middle',ok',joined'⟩ :=
    statement_carried joined ok (reached.mono fun _ => .inl (.inl same))
  rw [Seam.move,fixed,Span.push_zero,Statement.mapSpans_id] at ok'
  exact ⟨middle',ok',joined'⟩

theorem statements_break (steady : stream.Steady) (enough : 8 * stream.pending + 7 ≤ bound)
    (failed : statements bound stream = .error reason rest) :
    Exhausted stream rest ∨ Breaks (statements bound) stream reason Continues := by
  induction bound generalizing stream with
  | zero => omega
  | succ bound ih =>
    rw [statements,Production.statements,notEof_bind] at failed
    split at failed
    · next proper =>
      have inner : Exhausted stream rest ∨ Breaks (do
          let first ← statement bound
          let rest ← statements bound
          return first :: rest) stream reason Continues := by
        rcases bind_error.mp failed with failed | ⟨content,middle,ok,failed⟩
        · refine (statement_halts steady (by omega) failed).imp id fun breaks => ?_
          exact (breaks.mono fun _ _ _ _ => continues_sentence).first _
        · have shorter := statement_shorter steady ok
          obtain ⟨tokens,_,taken,_⟩ := statement_yields steady ok
          rcases ih shorter.1 (by have := shorter.2; omega) (bind_pure_error.mp failed) with
            exhausted | breaks
          · exact .inl (exhausted.after taken)
          · obtain ⟨lexemes,rfl,_,whole,_⟩ := taken
            refine .inr (((breaks.first _).after (statement_steers ok) whole steady).mono ?_)
            rintro _ offending behind held ⟨before,rfl,more,onward⟩
            have left : middle.tokens = before ++ offending :: behind := by
              rw [whole,List.append_assoc] at held
              exact List.append_cancel_left held
            -- The statement ends where it did: at the first token of what follows, or at the end.
            cases before with
            | nil =>
              refine ⟨[],fun place => ?_⟩
              have ended : Parses statements (Stream.ofLexemes [⟨.eof,place⟩]) [] _ :=
                parses_noStatement rfl
              obtain ⟨trees,parsed⟩ := statement_continues steady (by omega) proper ok whole left
                (.inr rfl) ended
              exact ⟨trees,_,by simpa using parsed⟩
            | cons first before =>
              refine ⟨more,fun place => ?_⟩
              obtain ⟨_,final,onward⟩ := onward place
              obtain ⟨trees,parsed⟩ := statement_continues steady (by omega) proper ok whole left
                (.inl rfl) onward
              exact ⟨trees,final,by simpa using parsed⟩
      refine inner.imp id fun breaks => breaks.alike ?_
      intro other shown
      rw [statements,Production.statements,notEof_bind,notEof_congr shown,if_pos proper]
    · cases failed

private theorem Blames.eof_span {before : List Lexeme} {place : Span}
    (blamed : Blames reason before ⟨.eof,place⟩) : reason.span = place := by
  cases blamed with
  | ident => rfl
  | ending => rfl
  | token inner => exact (inner rfl).elim

private theorem pending_le {front behind : List Lexeme} {final : Lexeme} (eof : final.token = .eof)
    (held : stream.tokens = front ++ final :: behind) : stream.pending ≤ front.length := by
  rw [Stream.pending,held,List.takeWhile_append]
  split
  · simp [eof]
  · exact (List.takeWhile_sublist _).length_le

/-- A failure does not go away under a larger bound. -/
theorem statements_reject {before : List Lexeme} {offending : Lexeme} {greater : Nat}
    (enough : 8 * (before.length + 1) + 7 ≤ bound) (larger : bound ≤ greater)
    (fails : ∀ (other : Stream) behind, other.tokens = before ++ offending :: behind →
      ∃ rest, statements bound other = .error reason rest)
    (other : Stream) (behind : List Lexeme) (held : other.tokens = before ++ offending :: behind) :
    ∃ rest, statements greater other = .error reason rest := by
  -- A stream with nothing but an end behind the token, in a place the failure is not about.
  let final : Lexeme := ⟨.eof,⟨reason.span.start + 1,0⟩⟩
  let probe : Stream := ⟨before ++ offending :: [final],.endless⟩
  have steady : probe.Steady := fun _ => ⟨final,by simp [probe],rfl⟩
  have whole : probe.tokens = (before ++ [offending]) ++ final :: [] := by simp [probe]
  have few : probe.pending ≤ before.length + 1 := by simpa using pending_le rfl whole
  obtain ⟨rest,failed⟩ := fails probe [final] rfl
  rw [statements_settled.run steady (by omega)
    (by omega : 8 * probe.pending + 7 ≤ greater)] at failed
  rcases statements_break steady (by omega) failed with ⟨none,endless,steady'⟩ | breaks
  · obtain ⟨last,some,_⟩ := steady' endless
    simp [none] at some
  · obtain ⟨before',offending',behind',parts,blamed,_,same⟩ := breaks
    rcases List.eq_nil_or_concat behind' with rfl | ⟨init,last,rfl⟩
    · obtain ⟨_,rfl⟩ : before ++ [offending] = before' ∧ final = offending' := by
        simpa using List.append_inj' (whole.symm.trans parts) rfl
      have place := congrArg Span.start blamed.eof_span
      simp at place
    · have front : before ++ [offending] = before' ++ offending' :: init := by
        have ends :
          (before ++ [offending]) ++ [final] = (before' ++ offending' :: init) ++ [last] := by
          simpa using whole.symm.trans parts
        exact (List.append_inj' ends rfl).1
      apply same other (init ++ behind)
      rw [held]
      simpa using congrArg (· ++ behind) front

theorem program_error :
    program bound stream = .error reason rest ↔ statements bound stream = .error reason rest := by
  rw [program,Production.program,bind_error]
  constructor
  · rintro (failed | ⟨_,_,_,failed⟩)
    · exact failed
    · cases failed
  · exact .inl

theorem program_error_ending (failed : program bound stream = .error reason rest) :
    rest.ending = stream.ending := by
  have lock : Lockstep fun first second : Stream =>
      first = second ∧ first.ending = stream.ending := by
    constructor
    · rintro first _ ⟨rfl,_⟩
      rfl
    · rintro first _ lexeme ⟨rfl,same⟩ _ _
      exact ⟨rfl,step_ending.trans same⟩
  have agreed := program_tracks lock bound ⟨rfl,rfl⟩
  rw [failed] at agreed
  obtain ⟨_,_,_,⟨_,same⟩,_⟩ := agreed.of_error
  exact same

/-- Without a fault in the characters, the statements decide. -/
theorem parse_error_iff (steady : stream.Steady) (sound : ∀ error, stream.ending ≠ .failed error)
    (enough : 8 * stream.pending + 7 ≤ bound) :
    stream.parse = .error reason ↔ ∃ rest, statements bound stream = .error reason rest := by
  have same := run_program_eq steady enough
  cases ran : program bound stream with
  | ok parsed rest =>
    obtain ⟨_,⟨_,_,_,_,ending,_⟩,_⟩ := program_yields steady ran
    have unseen : rest.fault = none := fault_of_sound (ending ▸ sound)
    rw [parse_of_ok (same.trans ran),unseen]
    have none (rest : Stream) : statements bound stream ≠ .error reason rest := by
      intro failed
      rw [program_error.mpr failed] at ran
      cases ran
    simp [none]
  | error reason' rest =>
    have unseen : rest.fault = none := fault_of_sound (program_error_ending ran ▸ sound)
    rw [parse_of_error (same.trans ran),unseen,program_error.mp ran]
    simp

end Parser

theorem parseLexemes_of_parses {lexemes : List Lexeme} {trees : List Statement} {rest : Stream}
    (parses : Parser.Parses Parser.statements (Stream.ofLexemes lexemes) trees rest) :
    ∃ parsed, parseLexemes lexemes = .ok parsed := by
  obtain ⟨least,ok⟩ := parses
  have steady := Stream.ofLexemes_steady lexemes
  let bound := max least (8 * (Stream.ofLexemes lexemes).pending + 7)
  have parsed := ok bound (Nat.le_max_left _ _)
  obtain ⟨_,⟨_,_,_,_,ending,_⟩,_⟩ := Parser.statements_yields steady parsed
  have sound : rest.fault = none := fault_of_sound (by simp [ending,Stream.ofLexemes])
  have ran := (Parser.run_program_eq steady (Nat.le_max_right _ _)).trans
    (Parser.program_ok.mpr ⟨trees,parsed,rfl⟩)
  exact ⟨_,parse_ok.mpr ⟨rest,ran,sound⟩⟩

private theorem parseLexemes_of_continues {before : List Lexeme}
    (continues : Parser.Continues before) :
    ∃ more parsed, parseLexemes (before ++ more) = .ok parsed := by
  obtain ⟨more,onward⟩ := continues
  obtain ⟨trees,rest,parses⟩ := onward Span.empty
  rw [List.append_assoc] at parses
  exact ⟨_,parseLexemes_of_parses parses⟩

theorem Stream.ofText_of_tokenize {source : String} {lexemes : List Lexeme}
    (scanned : tokenize source = .ok lexemes) : Stream.ofText source = ⟨lexemes,.endless⟩ := by
  unfold tokenize at scanned
  split at scanned
  · cases scanned
  · next tokens whole =>
    obtain rfl := Except.ok.inj scanned
    simp only [Stream.ofText,Stream.ofCursor,whole]

/-- A text that is rejected is rejected at one token. The error points to it, or, where a
constant has no value, to the name in front of it. The tokens before it are the beginning of
some program, and no tokens that begin with them and it are a program: all are rejected for
the same reason. -/
theorem rejects_first_wrong_token {source : String} {lexemes : List Lexeme} {reason : ParseError}
    (scanned : tokenize source = .ok lexemes) (rejected : parseText source = .error reason) :
    ∃ before offending after, lexemes = before ++ offending :: after ∧
      ((reason.fault ≠ .missingConstValue ∧ reason.span = offending.span) ∨
        (reason.fault = .missingConstValue ∧ offending.token = .semicolon ∧
          ∃ earlier name, before = earlier ++ [⟨.ident name,reason.span⟩])) ∧
      (∃ more parsed, parseLexemes (before ++ more) = .ok parsed) ∧
      ∀ more, parseLexemes (before ++ offending :: more) = .error reason := by
  have steady := Stream.ofText_steady source
  rw [parseText] at rejected
  rw [Stream.ofText_of_tokenize scanned] at rejected steady
  let bound := 8 * lexemes.length + 7
  have few : (⟨lexemes,.endless⟩ : Stream).pending ≤ lexemes.length :=
    (List.takeWhile_sublist _).length_le
  obtain ⟨rest,failed⟩ := (Parser.parse_error_iff steady (by simp)
    (by omega : _ ≤ bound)).mp rejected
  rcases Parser.statements_break steady (by omega) failed with ⟨none,endless,steady'⟩ | breaks
  · obtain ⟨last,some,_⟩ := steady' endless
    simp [none] at some
  · obtain ⟨before,offending,after,whole,blamed,continues,same⟩ := breaks
    refine ⟨before,offending,after,whole,?_,parseLexemes_of_continues continues,?_⟩
    · cases blamed with
      | constant => exact .inr ⟨rfl,rfl,_,_,rfl⟩
      | _ => exact .inl ⟨by simp,rfl⟩
    · intro more
      let other := Stream.ofLexemes (before ++ offending :: more)
      let greater := max bound (8 * other.pending + 7)
      have shorter : before.length + 1 ≤ lexemes.length := by
        have parts : lexemes = before ++ offending :: after := whole
        simp [parts]
      obtain ⟨rest',failed'⟩ := Parser.statements_reject (by omega) (Nat.le_max_left bound _) same
        other more rfl
      exact (Parser.parse_error_iff (Stream.ofLexemes_steady _) (by simp [Stream.ofLexemes])
        (Nat.le_max_right bound _)).mpr ⟨rest',failed'⟩

/-- A constant without a value behind a call. -/
theorem rejects_constant_without_value :
    let lexemes : List Lexeme := [⟨.ident "f",⟨0,1⟩⟩,⟨.leftParen,⟨1,2⟩⟩,⟨.rightParen,⟨2,3⟩⟩,
      ⟨.constWord,⟨4,9⟩⟩,⟨.ident "a",⟨10,11⟩⟩,⟨.semicolon,⟨11,12⟩⟩,⟨.eof,⟨12,12⟩⟩]
    let reason : ParseError := ⟨.missingConstValue,⟨10,11⟩⟩
    tokenize "f() const a;" = .ok lexemes ∧ parseText "f() const a;" = .error reason ∧
    ∃ before offending after, lexemes = before ++ offending :: after ∧
      ((reason.fault ≠ .missingConstValue ∧ reason.span = offending.span) ∨
        (reason.fault = .missingConstValue ∧ offending.token = .semicolon ∧
          ∃ earlier name, before = earlier ++ [⟨.ident name,reason.span⟩])) ∧
      (∃ more parsed, parseLexemes (before ++ more) = .ok parsed) ∧
      ∀ more, parseLexemes (before ++ offending :: more) = .error reason := by
  intro lexemes reason
  have scanned : tokenize "f() const a;" = .ok lexemes := by
    rw [tokenize,Cursor.ofText_eq]
    decide +kernel
  have rejected : parseText "f() const a;" = .error reason := by
    rw [parse_of_tokenize scanned []]
    rfl
  exact ⟨scanned,rejected,rejects_first_wrong_token scanned rejected⟩

end Scriptlet
