import Scriptlet.Proofs.Lexer.Joined
import Scriptlet.Proofs.Parser.Prefix

/-! Programs one behind the other. Where the statements of the first text have come to its end,
those of the second go on as they would alone, unless a parenthesis at the start of the second
text turns the last expression of the first into a call. -/
namespace Scriptlet
open Cursor

def tokensOf (source : String) : List Token :=
  ((Stream.ofText source).tokens.map (·.token)).filter (· != .eof)

theorem tokensOf_of_tokenize {source : String} {inner : List Lexeme}
    (read : tokenize source = .ok (inner ++ [endToken (.ofNat source.utf8ByteSize)])) :
    tokensOf source = inner.map (·.token) := by
  obtain ⟨inner,same,laid⟩ := tokenize_eq_ok.mp read
  obtain rfl := List.append_cancel_right same
  have inside : ∀ token ∈ inner.map (·.token), (token != .eof) = true := by
    intro token member
    obtain ⟨lexeme,held,rfl⟩ := List.mem_map.mp member
    simpa using laid.ne_eof (List.mem_map_of_mem held)
  rw [tokensOf,Stream.ofText_of_tokenize read,List.map_append,List.filter_append,
    List.filter_eq_self.mpr inside]
  exact List.append_nil _

namespace Parser
open Grammar Scriptlet.Stream

theorem Settled.parses {α : Type} {cost bound : Nat} {parser : Nat → Parser α} {value : α}
    {stream rest : Stream} (settled : Settled cost parser bound) (steady : stream.Steady)
    (enough : 8 * stream.pending + cost ≤ bound) (ok : parser bound stream = .ok value rest) :
    Parses parser stream value rest := by
  refine ⟨bound,fun larger more => ?_⟩
  rw [← settled.run steady enough (by omega),ok]

section
variable {inner others : List Lexeme} {final final' : Lexeme} {trees trees' : List Statement}

private theorem steady_concat (inner : List Lexeme) (eof : final.token = .eof) :
    (⟨inner ++ [final],.endless⟩ : Stream).Steady := fun _ => ⟨final,by simp,eof⟩

private theorem notEof_final (eof : final.token = .eof) :
    (⟨[final],.endless⟩ : Stream).notEof = false := by
  have found : (⟨[final],.endless⟩ : Stream).current = some final := rfl
  simp [notEof_of_current found,eof]

private theorem statements_shift (offset : UInt32) (eof : final.token = .eof)
    (parsed : Parses statements ⟨inner ++ [final],.endless⟩ trees ⟨[final],.endless⟩) :
    Parses statements ⟨(inner ++ [final]).map (Lexeme.push offset),.endless⟩
      (trees.map (Statement.mapSpans (Span.push offset)))
      ⟨[final.push offset],.endless⟩ := by
  let seam : Seam := ⟨offset,final,[],final.push offset,[],.endless⟩
  have joined : seam.Joins ⟨inner ++ [final],.endless⟩
      ⟨(inner ++ [final]).map (Lexeme.push offset),.endless⟩ :=
    ⟨steady_concat inner eof,inner,rfl,by simp [seam]⟩
  have ended : seam.Joins ⟨[final],.endless⟩ ⟨[final.push offset],.endless⟩ :=
    ⟨steady_concat [] eof,[],rfl,rfl⟩
  have same : seam.Same := rfl
  obtain ⟨least,ok⟩ := parsed
  obtain ⟨rest,joined',onward⟩ := statements_carried joined (Nat.le_max_right least _)
    (ok _ (Nat.le_max_left least _)) rfl (.inl same.isOpen)
  obtain rfl := joined'.unique ended
  have done := onward (parses_noStatement (notEof_final eof))
  rwa [List.append_nil] at done

private theorem sentences_of_parsed (eof : final.token = .eof)
    (parsed : Parses statements ⟨inner ++ [final],.endless⟩ trees ⟨[final],.endless⟩) :
    Takes ⟨inner ++ [final],.endless⟩ (inner.map (·.token)) ⟨[final],.endless⟩ ∧
      Sentences false (inner.map (·.token)) (trees.map Statement.erase) := by
  obtain ⟨least,ok⟩ := parsed
  obtain ⟨tokens,taken,sentences,_⟩ :=
    statements_yields (steady_concat inner eof) (ok least (Nat.le_refl _))
  obtain ⟨lexemes,rfl,_,whole,_⟩ := id taken
  obtain rfl := List.append_cancel_right whole
  exact ⟨taken,sentences⟩

/-- What statements begin with, apart from a parenthesis, does not belong to what stands before
them. -/
theorem loose_of_parsed {first : Lexeme} (eof : final.token = .eof)
    (parsed : Parses statements ⟨inner ++ [final],.endless⟩ trees ⟨[final],.endless⟩)
    (apart : (inner.map (·.token)).head? ≠ some .leftParen)
    (found : (inner ++ [final]).head? = some first) :
    first.token.grip = 0 ∧ first.token ≠ .semicolon := by
  obtain ⟨taken,sentences⟩ := sentences_of_parsed eof parsed
  have here : (⟨inner ++ [final],.endless⟩ : Stream).current = some first := found
  have loose := loose_of_sentences sentences apart taken (notEof_final eof)
  rw [grip_of_current here,isAt_of_current here] at loose
  simpa using loose

theorem statements_join (offset : UInt32) (eof : final.token = .eof) (eof' : final'.token = .eof)
    (parsed : Parses statements ⟨inner ++ [final],.endless⟩ trees ⟨[final],.endless⟩)
    (parsed' : Parses statements ⟨others ++ [final'],.endless⟩ trees' ⟨[final'],.endless⟩)
    (apart : (others.map (·.token)).head? ≠ some .leftParen ∨ inner = [] ∨
      (inner.map (·.token)).getLast? = some .semicolon) :
    Parses statements ⟨inner ++ (others ++ [final']).map (Lexeme.push offset),.endless⟩
      (trees ++ trees'.map (Statement.mapSpans (Span.push offset)))
      ⟨[final'.push offset],.endless⟩ := by
  have moved := statements_shift offset eof' parsed'
  obtain ⟨first,more,parts⟩ := List.exists_cons_of_ne_nil (show others ++ [final'] ≠ [] by simp)
  rw [parts,List.map_cons] at moved ⊢
  let seam : Seam := ⟨0,final,[],first.push offset,more.map (Lexeme.push offset),.endless⟩
  have joined : seam.Joins ⟨inner ++ [final],.endless⟩
      ⟨inner ++ first.push offset :: more.map (Lexeme.push offset),.endless⟩ :=
    ⟨steady_concat inner eof,inner,rfl,by simp [seam,Lexeme.push_zero]⟩
  have ended : seam.Joins ⟨[final],.endless⟩
      ⟨first.push offset :: more.map (Lexeme.push offset),.endless⟩ :=
    ⟨steady_concat [] eof,[],rfl,rfl⟩
  have still : Statement.mapSpans seam.move = id := by
    rw [Seam.move,Span.push_zero]
    exact funext Statement.mapSpans_id
  obtain ⟨taken,sentences⟩ := sentences_of_parsed eof parsed
  -- What stands behind the seam must not change how the last statement ends.
  have open' : seam.Open ∨ Ends ⟨inner ++ [final],.endless⟩ ⟨[final],.endless⟩ ∨ trees = [] := by
    rcases apart with other | rfl | ended
    · have found : (others ++ [final']).head? = some first := by rw [parts]; rfl
      have loose := loose_of_parsed eof' parsed' other found
      exact .inl (.inr loose)
    · exact .inr (.inr (List.map_eq_nil_iff.mp (sentences_nil sentences rfl)))
    · obtain ⟨init,last⟩ := List.getLast?_eq_some_iff.mp ended
      exact .inr (.inl ⟨init,last ▸ taken⟩)
  obtain ⟨least,ok⟩ := parsed
  obtain ⟨rest,joined',onward⟩ := statements_carried joined (Nat.le_max_right least _)
    (ok _ (Nat.le_max_left least _)) rfl open'
  obtain rfl := joined'.unique ended
  have whole := onward moved
  rwa [still,List.map_id] at whole

end
end Parser
open Scriptlet.Parser

/-- A text is parsed to the statements its tokens give, and its program takes up all of it. -/
theorem parseText_ok {source : String} {inner : List Lexeme} {program : Program}
    (read : tokenize source = .ok (inner ++ [endToken (.ofNat source.utf8ByteSize)])) :
    parseText source = .ok program ↔
      Parses statements
        ⟨inner ++ [endToken (.ofNat source.utf8ByteSize)],.endless⟩ program.statements
        ⟨[endToken (.ofNat source.utf8ByteSize)],.endless⟩ ∧
      program.span = ⟨0,.ofNat source.utf8ByteSize⟩ := by
  have steady := Stream.ofText_steady source
  have stream := Stream.ofText_of_tokenize read
  rw [stream] at steady
  rw [parseText,parse_ok]
  constructor
  · rintro ⟨rest,ran,clear⟩
    obtain ⟨_,_,rfl⟩ := run_ends ran clear
    rw [stream,run_program_eq steady pending_le_bound] at ran
    obtain ⟨trees,ok,rfl⟩ := program_ok.mp ran
    exact ⟨statements_settled.parses steady pending_le_bound ok,rfl⟩
  · rintro ⟨⟨least,ok⟩,span⟩
    refine ⟨⟨[endToken (.ofNat source.utf8ByteSize)],.endless⟩,?_,fault_of_sound (by simp)⟩
    rw [stream,run_program_eq steady (Nat.le_max_right least _)]
    exact program_ok.mpr ⟨program.statements,ok _ (Nat.le_max_left least _),Program.ext rfl span⟩

end Scriptlet
