import Scriptlet.Proofs.Parser.Carried
import Scriptlet.Proofs.Parser.Entries

/-! Parsing comes to an end on every stream. No parse gets below a number of levels that the tokens
before the end give, since every node takes a token and none takes the end token; so every loop of
the parser has fewer tokens left after each round. -/
namespace Scriptlet
namespace Stream

variable {stream rest : Stream}

private theorem ofItems_finite (items : List (Except LexError Lexeme)) :
    (ofItems items).ending ≠ .endless := by
  induction items with
  | nil => simp [ofItems]
  | cons item items ih =>
    cases item with
    | error error => simp [ofItems]
    | ok lexeme => exact ih

private theorem step_cases {lexeme : Lexeme} (found : stream.current = some lexeme) :
    (stream.ending = .endless ∧ stream.step = stream) ∨
      stream.tokens = lexeme :: stream.step.tokens := by
  obtain ⟨tokens,ending⟩ := stream
  cases tokens with
  | nil => simp [current] at found
  | cons first others =>
    obtain rfl : first = lexeme := by simpa [current] using found
    cases others with
    | cons second others => exact .inr rfl
    | nil =>
      cases ending with
      | endless => exact .inl ⟨rfl,rfl⟩
      | closed | failed => exact .inr rfl

theorem Steady.step (steady : stream.Steady) : stream.step.Steady := by
  cases found : stream.current with
  | none =>
    obtain ⟨tokens,ending⟩ := stream
    cases tokens with
    | nil => exact steady
    | cons first others => simp [current] at found
  | some lexeme =>
    rcases step_cases found with ⟨_,same⟩ | taken
    · rw [same]
      exact steady
    · intro endless
      obtain ⟨last,final,eof⟩ := steady (step_ending.symm.trans endless)
      cases left : stream.step.tokens with
      | nil =>
        -- The only token of an endless stream is not taken.
        obtain ⟨tokens,ending⟩ := stream
        obtain rfl : ending = .endless := step_ending.symm.trans endless
        rw [left] at taken
        dsimp only at taken
        subst taken
        simp [Stream.step] at left
      | cons second others =>
        rw [taken,left,List.getLast?_cons_cons] at final
        exact ⟨last,final,eof⟩

theorem Steady.steps (steady : stream.Steady) (count : Nat) :
    (Stream.step^[count] stream).Steady := by
  induction count with
  | zero => exact steady
  | succ count ih =>
    rw [Function.iterate_succ_apply']
    exact ih.step

end Stream

namespace Parser
open Scriptlet.Stream

/-- A parse that succeeds, from one stream to another, for each kind of node. A declaration starts
at its keyword, where a statement starts it. -/
inductive Passes (bound : Nat) (stream rest : Stream) : Prop where
  | statement {content} (ok : statement bound stream = .ok content rest)
  | declaration {opening content} (found : stream.current = some opening)
      (keyword : opening.token.isReserved = true) (ok : declaration bound stream = .ok content rest)
  | expression {tree} (ok : expression bound stream = .ok tree rest)
  | operations {floor tree} (ok : operations bound floor stream = .ok tree rest)
  | number {tree} (ok : number stream = .ok tree rest)
  | object {tree} (ok : object bound stream = .ok tree rest)
  | property {tree} (ok : property bound stream = .ok tree rest)
  | operation {left tree} (ok : operation bound left stream = .ok tree rest)
  | call {callee tree} (ok : call bound callee stream = .ok tree rest)
  | member {holder tree} (ok : member bound holder stream = .ok tree rest)

/-- One round of a loop of the parser: the loop goes on, and its part is parsed. -/
inductive Round (bound : Nat) (stream rest : Stream) : Prop where
  | statement {content} (more : stream.notEof = true)
      (ok : statement bound stream = .ok content rest)
  | property {tree} (more : stream.notEof = true) (open' : stream.isAt .rightBrace = false)
      (ok : property bound stream = .ok tree rest)
  | argument {tree} (more : stream.isAt .comma = true)
      (ok : expression bound stream.step = .ok tree rest)
  | operation {floor : Precedence} {left tree} (more : floor.rank < stream.precedence.rank)
      (ok : operation bound left stream = .ok tree rest)
  | call {callee tree} (more : stream.isAt .leftParen = true)
      (ok : call bound callee stream = .ok tree rest)
  | member {holder tree} (more : stream.isAt .dot = true ∨ stream.isAt .leftBracket = true)
      (ok : member bound holder stream = .ok tree rest)

variable {stream rest : Stream} {bound : Nat}

theorem Passes.takes (passes : Passes bound stream rest) (steady : stream.Steady) :
    ∃ tokens, tokens ≠ [] ∧ stream.Takes tokens rest := by
  have yielded {phrase : Grammar.Phrase} (yields : Yields stream rest phrase)
      (solid : ∀ trees, phrase ≠ .properties trees) :
      ∃ tokens, tokens ≠ [] ∧ stream.Takes tokens rest := by
    obtain ⟨tokens,taken,derived⟩ := yields
    exact ⟨tokens,derived.ne_nil solid,taken⟩
  cases passes with
  | statement ok =>
    obtain ⟨tokens,_,taken,sentence⟩ := statement_yields steady ok
    exact ⟨tokens,sentence.ne_nil,taken⟩
  | declaration found keyword ok =>
    obtain ⟨tokens,taken,sentence⟩ := declaration_yields steady found keyword ok
    exact ⟨tokens,sentence.ne_nil,taken⟩
  | expression ok => exact yielded ((sound bound).expression steady ok) (by simp)
  | @operations floor tree ok =>
    have yields := ((sound bound).operations steady ok).1
    cases floor <;> exact yielded yields (by simp [level])
  | number ok =>
    obtain ⟨digits,span,value,found,_,_,rfl⟩ := number_ok.mp ok
    exact ⟨_,by simp,.one steady found (by simp)⟩
  | object ok => exact yielded ((sound bound).object steady ok) (by simp)
  | property ok =>
    obtain ⟨tokens,derived,taken | ⟨taken,_⟩⟩ := (sound bound).property steady ok
    · exact ⟨_,by simp,taken⟩
    · exact ⟨tokens,derived.ne_nil (by simp),taken⟩
  | operation ok =>
    obtain ⟨_,_,taken⟩ := operation_takes steady ok
    exact ⟨_,by simp,taken⟩
  | call ok =>
    obtain ⟨_,_,taken⟩ := call_takes steady ok
    exact ⟨_,by simp,taken⟩
  | member ok =>
    obtain ⟨_,_,taken⟩ := member_takes steady ok
    exact ⟨_,by simp,taken⟩

theorem Round.shorter (round : Round bound stream rest) (steady : stream.Steady) :
    Shorter rest stream := by
  cases round with
  | statement _ ok => exact statement_shorter steady ok
  | property _ _ ok => exact property_shorter steady ok
  | argument more ok =>
    obtain ⟨_,found⟩ := isAt_iff.mp more
    have stepped := shorter_step steady found (by simp)
    exact (expression_shorter stepped.1 ok).trans stepped
  | operation _ ok => exact operation_shorter steady ok
  | call _ ok => exact call_shorter steady ok
  | member _ ok => exact member_shorter steady ok

private theorem whole_grounded (steady : stream.Steady) (lowest : Level)
    (enough : 8 * stream.pending + 7 ≤ bound) :
    (Level.next^[bound] lowest).whole stream = whole stream := by
  have same : (Level.next^[bound] lowest).program stream = run program stream :=
    ((program_grounded bound).run steady enough).trans (run_program_eq steady enough).symm
  unfold Level.whole whole Production.whole
  generalize (Level.next^[bound] lowest).program stream = outcome at same ⊢
  subst same
  cases run program stream <;> rfl

end Parser
open Scriptlet.Parser

/-- Parsing ends on every stream of tokens and faults and on the endless stream of a scan: however
the rules behave below eight levels for each token before the end, and seven more, the outcome is
the same, so they are never called. At every point of the stream, a node that is parsed has taken at
least one token and no end token, and each round of a loop leaves fewer tokens before the end. -/
theorem parsing_terminates {stream : Stream}
    (source : (∃ items, stream = .ofItems items) ∨ ∃ cursor, stream = .ofCursor cursor) :
    (∀ lowest bound, 8 * stream.pending + 7 ≤ bound →
      (Level.next^[bound] lowest).whole stream = whole stream) ∧
    ∀ steps bound rest,
      (Passes bound (Stream.step^[steps] stream) rest →
        ∃ tokens, tokens ≠ [] ∧ (Stream.step^[steps] stream).Takes tokens rest) ∧
      (Round bound (Stream.step^[steps] stream) rest →
        rest.pending < (Stream.step^[steps] stream).pending) := by
  have steady : stream.Steady := by
    rcases source with ⟨items,rfl⟩ | ⟨cursor,rfl⟩
    · exact Stream.steady_of_ending (Stream.ofItems_finite items)
    · exact Stream.ofCursor_steady cursor
  refine ⟨fun lowest bound enough => whole_grounded steady lowest enough,?_⟩
  intro steps bound rest
  have reached := steady.steps steps
  exact ⟨fun passes => passes.takes reached,fun round => (round.shorter reached).2⟩

/-- A call before a fault, with tokens behind it that are never read. -/
theorem parsing_terminates_call :
    let stream := Stream.ofItems [.ok ⟨.ident "f",⟨0,1⟩⟩,.ok ⟨.leftParen,⟨1,2⟩⟩,
      .ok ⟨.rightParen,⟨2,3⟩⟩,.error ⟨'#',⟨3,4⟩⟩,.ok ⟨.eof,⟨4,4⟩⟩,.ok ⟨.comma,⟨4,5⟩⟩]
    stream.pending = 3 ∧ (∀ lowest, (Level.next^[31] lowest).whole stream = whole stream) ∧
      ∃ content rest, statement 31 stream = .ok content rest ∧ rest.pending < stream.pending ∧
        ∃ tokens, tokens ≠ [] ∧ stream.Takes tokens rest := by
  intro stream
  obtain ⟨same,taken⟩ := parsing_terminates (.inl ⟨_,(rfl : stream = _)⟩)
  have ok : statement 31 stream = .ok
      (.expression (.call (.identifier ⟨"f",⟨0,1⟩⟩) [] ⟨0,3⟩)) ⟨[],.failed ⟨'#',⟨3,4⟩⟩⟩ := rfl
  obtain ⟨passes,round⟩ := taken 0 31 _
  exact ⟨by decide,fun lowest => same lowest 31 (by decide),_,_,ok,
    round (.statement (by decide) ok),
    passes (.statement ok)⟩

end Scriptlet
