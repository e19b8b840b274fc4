import Scriptlet.Proofs.Parser.Joined
import Scriptlet.Proofs.Parser.Places

/-! The places of a parsed text. Its tokens stand one behind the other, so the parts of its program
lie inside one another, and the parts right below one stand in the order of the source. -/
namespace Scriptlet

private theorem Cursor.Laid.orders [Alphabet] {place : Nat → UInt32} {index : Nat}
    {chars : List Char}
    {pieces : List Piece} {final : Lexeme} (laid : Laid place index chars pieces)
    (grows : Grows place (index + chars.length)) (eof : final.token = .eof) {low : UInt32}
    (below : low ≤ place index) : Parser.Ordered low (gathered final pieces).1 := by
  induction laid generalizing low with
  | done => exact .inl eof
  | @blank index c rest pieces skipped more ih =>
    have reach : index + (c :: rest).length = index + 1 + rest.length := by
      simp only [List.length_cons]
      omega
    exact ih (reach ▸ grows) (below.trans (grows.le (by omega) (by omega)))
  | @piece index taken rest make pieces formed more ih =>
    rw [List.length_append,← Nat.add_assoc] at grows
    have some : 0 < taken.length := List.length_pos_iff.mpr formed.ne_nil
    have span := formed.span ⟨place index,place (index + taken.length)⟩
    cases made : make ⟨place index,place (index + taken.length)⟩ with
    | error error => exact trivial
    | ok lexeme =>
      rw [made] at span
      change lexeme.span = _ at span
      refine .inr ⟨?_,?_,?_⟩
      · rwa [span]
      · rw [span]
        exact grows (by omega) (by omega)
      · exact ih grows (by rw [span])

open Cursor

theorem exists_pieces (source : String) : ∃ pieces : List Piece,
    Laid (textPlace source.toList) 0 source.toList pieces ∧
      (Cursor.ofText source).scan = gathered (endToken (.ofNat source.utf8ByteSize)) pieces := by
  obtain ⟨pieces,laid⟩ := exists_laid (textPlace source.toList) 0 source.toList
  exact ⟨pieces,laid,laid.scan_text⟩

private theorem Stream.ofText_stands {source : String} (fits : source.utf8ByteSize < UInt32.size) :
    Parser.Stands (Stream.ofText source).tokens 0 (Stream.ofText source) := by
  obtain ⟨pieces,laid,scanned⟩ := exists_pieces source
  refine ⟨Stream.ofText_steady source,List.Subset.refl _,?_⟩
  rw [Stream.ofText_tokens,scanned]
  exact laid.orders (text_grows fits) rfl (Nat.zero_le _)

theorem lexeme_within {source : String} (fits : source.utf8ByteSize < UInt32.size)
    {lexemes : List Lexeme} (read : tokenize source = .ok lexemes) :
    ∀ lexeme ∈ lexemes, lexeme.span.start ≤ .ofNat source.utf8ByteSize ∧
      lexeme.span.stop ≤ .ofNat source.utf8ByteSize := by
  obtain ⟨inner,rfl,held⟩ := inner_of_tokenize fits read
  intro lexeme member
  rcases List.mem_append.mp member with before | final
  · have stop := held.within lexeme before
    exact ⟨(held.filled lexeme before).le.trans stop,stop⟩
  · obtain rfl := List.mem_singleton.mp final
    exact ⟨le_rfl,le_rfl⟩

open Scriptlet.Parser

section
variable {source : String} {program : Program} (fits : source.utf8ByteSize < UInt32.size)
  (parsed : parseText source = .ok program)
include fits parsed

private theorem parseText_row :
    ∃ inner, tokenize source = .ok (inner ++ [endToken (.ofNat source.utf8ByteSize)]) ∧
      program.span = ⟨0,.ofNat source.utf8ByteSize⟩ ∧
      Row (inner ++ [endToken (.ofNat source.utf8ByteSize)]) 0 (.ofNat source.utf8ByteSize)
        (program.statements.map .statement) := by
  obtain ⟨rest,ran,clear⟩ := parse_ok.mp parsed
  obtain ⟨inner,read,_⟩ := run_ends ran clear
  obtain ⟨⟨least,ok⟩,span⟩ := (parseText_ok read).mp parsed
  have stands := Stream.ofText_stands fits
  rw [Stream.ofText_of_tokenize read] at stands
  obtain ⟨high,row,_⟩ := statements_land stands (ok least (Nat.le_refl _))
  have above (lexeme : Lexeme) (member) := (lexeme_within fits read lexeme member).2
  exact ⟨inner,read,span,row.within above (Nat.zero_le _)⟩

theorem parseText_fills :
    ∃ inner, tokenize source = .ok (inner ++ [endToken (.ofNat source.utf8ByteSize)]) ∧
      ∀ span ∈ program.spans, Fills (inner ++ [endToken (.ofNat source.utf8ByteSize)]) 0
        (.ofNat source.utf8ByteSize) span := by
  obtain ⟨inner,read,_,row⟩ := parseText_row fits parsed
  refine ⟨inner,read,fun span member => ?_⟩
  obtain ⟨statement,listed,member⟩ := List.mem_flatMap.mp member
  obtain ⟨part,below,rfl⟩ := Statement.holds_of_mem member
  exact row.contained (List.mem_map_of_mem listed) below

/-- A program takes up its whole text. Every other part of it is right below some part: it reaches
from the start of a token to the end of a token, lies inside the part above it, and ends before the
next part below that one starts. A text whose positions do not wrap around is meant. -/
theorem parts_nest :
    program.span = ⟨0,.ofNat source.utf8ByteSize⟩ ∧
    ∃ tokens, tokenize source = .ok tokens ∧
      ∀ part, (Part.program program).Contains part →
        (∀ child ∈ part.children, child.span.start < child.span.stop ∧
          (∃ first ∈ tokens, first.token ≠ .eof ∧ first.span.start = child.span.start) ∧
          (∃ last ∈ tokens, last.token ≠ .eof ∧ last.span.stop = child.span.stop) ∧
          child.span.Within part.span) ∧
        part.children.Pairwise fun before after => before.span.stop ≤ after.span.start := by
  obtain ⟨inner,read,span,row⟩ := parseText_row fits parsed
  refine ⟨span,_,read,fun part below => ?_⟩
  have tidy : Tidy (inner ++ [endToken (.ofNat source.utf8ByteSize)]) (.program program) := by
    rw [tidy_iff]
    change Row _ program.span.start program.span.stop _
    rwa [span]
  have spaced := tidy part below
  refine ⟨fun child member => ?_,List.pairwise_map.mp spaced.pairwise⟩
  have fills := spaced.fills _ (List.mem_map_of_mem member)
  exact ⟨fills.some,fills.start,fills.stop,fills.low,fills.high⟩

end

/-- A call of two arguments, the first of them in braces and the second reached by a dot. -/
theorem parts_nest_call :
    let source := "f({k: (x)}, y.z);"
    let key : Property := .valued "k" (.identifier ⟨"x",⟨7,8⟩⟩) ⟨3,8⟩
    let program : Program := ⟨[.expression (.call (.identifier ⟨"f",⟨0,1⟩⟩)
      [.object [key] ⟨2,10⟩,.member (.identifier ⟨"y",⟨12,13⟩⟩) ⟨"z",⟨14,15⟩⟩ ⟨12,15⟩]
      ⟨0,16⟩)],⟨0,17⟩⟩
    source.utf8ByteSize < UInt32.size ∧ parseText source = .ok program ∧
    program.span = ⟨0,.ofNat source.utf8ByteSize⟩ ∧
    ∃ tokens, tokenize source = .ok tokens ∧
      ∀ part, (Part.program program).Contains part →
        (∀ child ∈ part.children, child.span.start < child.span.stop ∧
          (∃ first ∈ tokens, first.token ≠ .eof ∧ first.span.start = child.span.start) ∧
          (∃ last ∈ tokens, last.token ≠ .eof ∧ last.span.stop = child.span.stop) ∧
          child.span.Within part.span) ∧
        part.children.Pairwise fun before after => before.span.stop ≤ after.span.start := by
  intro source key program
  have scanned : tokenize source = .ok [⟨.ident "f",⟨0,1⟩⟩,⟨.leftParen,⟨1,2⟩⟩,⟨.leftBrace,⟨2,3⟩⟩,
      ⟨.ident "k",⟨3,4⟩⟩,⟨.colon,⟨4,5⟩⟩,⟨.leftParen,⟨6,7⟩⟩,⟨.ident "x",⟨7,8⟩⟩,⟨.rightParen,⟨8,9⟩⟩,
      ⟨.rightBrace,⟨9,10⟩⟩,⟨.comma,⟨10,11⟩⟩,⟨.ident "y",⟨12,13⟩⟩,⟨.dot,⟨13,14⟩⟩,
      ⟨.ident "z",⟨14,15⟩⟩,⟨.rightParen,⟨15,16⟩⟩,⟨.semicolon,⟨16,17⟩⟩,⟨.eof,⟨17,17⟩⟩] := by
    rw [tokenize,Cursor.ofText_eq]
    decide +kernel
  have parsed : parseText source = .ok program := by
    rw [parse_of_tokenize scanned []]
    rfl
  have fits : source.utf8ByteSize < UInt32.size := by decide
  exact ⟨fits,parsed,parts_nest fits parsed⟩

/-- Where positions wrap around, a name stops in front of its start. -/
theorem far_name_reversed :
    let source := blanks 4294967295 ++ "a;"
    let statement : Statement := .expression (.identifier ⟨"a",⟨4294967295,0⟩⟩)
    let program : Program := ⟨[statement],⟨0,1⟩⟩
    parseText source = .ok program ∧ program.span.stop.toNat ≠ source.utf8ByteSize ∧
      ¬ statement.span.start < statement.span.stop := by
  intro source statement program
  have read : tokenize "a;" = .ok [⟨.ident "a",⟨0,1⟩⟩,⟨.semicolon,⟨1,2⟩⟩,⟨.eof,⟨2,2⟩⟩] := by
    rw [tokenize,Cursor.ofText_eq]
    decide +kernel
  refine ⟨?_,?_,by decide⟩
  · rw [parse_of_tokenize (tokenize_behind read 4294967295) []]
    rfl
  · rw [String.utf8ByteSize_append,blanks_size]
    decide

end Scriptlet
