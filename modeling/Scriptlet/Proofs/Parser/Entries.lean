import Scriptlet.Proofs.Lexer.Layout
import Scriptlet.Proofs.Parser.Language
import Scriptlet.Proofs.Parser.Lockstep

/-! Programs from a text, from a sequence of characters and from tokens. All of them are parsed
alike, and a fault of the characters is reported as soon as it has come into view. -/
namespace Scriptlet
open Scriptlet.Parser

def SameUntilEnd (stream other : Stream) : Prop :=
  ∃ inner final more more', final.token = .eof ∧ (∀ lexeme ∈ inner, lexeme.token ≠ .eof) ∧
    stream.tokens = inner ++ final :: more ∧ other.tokens = inner ++ final :: more' ∧
    (∀ error, stream.ending ≠ .failed error) ∧ ∀ error, other.ending ≠ .failed error

theorem step_of_tokens {stream : Stream} {first second : Lexeme} {others : List Lexeme}
    (held : stream.tokens = first :: second :: others) :
    stream.step.tokens = second :: others := by
  simp only [Stream.step,held]

private theorem sameUntilEnd_lockstep : Lockstep SameUntilEnd where
  current := by
    intro stream other related
    obtain ⟨inner,final,more,more',_,_,here,there,_⟩ := related
    cases inner <;> simp [Stream.current,here,there]
  step := by
    intro stream other lexeme related found proper
    obtain ⟨inner,final,more,more',eof,apart,here,there,sound,sound'⟩ := related
    cases inner with
    | nil =>
      obtain rfl : final = lexeme := by simpa [Stream.current,here] using found
      exact (proper eof).elim
    | cons first inner =>
      refine ⟨inner,final,more,more',eof,fun lexeme member => apart lexeme (by simp [member]),
        ?_,?_,by rwa [Stream.feed_step,Stream.step_ending],
        by rwa [Stream.feed_step,Stream.step_ending]⟩
      · cases inner with
        | nil => exact step_of_tokens here
        | cons second inner => exact step_of_tokens here
      · cases inner with
        | nil => exact step_of_tokens there
        | cons second inner => exact step_of_tokens there

def SameTokens (whole : List Lexeme) (error : LexError) (stream other : Stream) : Prop :=
  stream.tokens <:+ whole ∧ stream.tokens = other.tokens ∧ stream.ending = .failed error ∧
    other.ending = .closed

private theorem sameTokens_lockstep (whole : List Lexeme) (error : LexError) :
    Lockstep (SameTokens whole error) where
  current := by
    intro stream other related
    rw [Stream.feed_current,Stream.feed_current,Stream.current,Stream.current,related.2.1]
  step := by
    intro stream other lexeme related _ _
    obtain ⟨tokens,ending⟩ := stream
    obtain ⟨tokens',ending'⟩ := other
    obtain ⟨within,rfl,rfl,rfl⟩ := related
    cases tokens with
    | nil => exact ⟨within,rfl,rfl,rfl⟩
    | cons first others =>
      have later : others <:+ whole := (List.suffix_cons first others).trans within
      cases others with
      | nil => exact ⟨later,rfl,rfl,rfl⟩
      | cons second others => exact ⟨later,rfl,rfl,rfl⟩

theorem endSpan_of_sound {stream : Stream} (sound : ∀ error, stream.ending ≠ .failed error) :
    stream.endSpan = Span.empty := by
  rw [Stream.endSpan,Feed.endSpan,Stream.feed_fault,fault_of_sound sound]

/-- Feeds that are parsed alike, with the same fault in view where the parser stops, give the same
answer. -/
theorem Feed.parse_of_agree {σ τ : Type} [Feed σ] [Feed τ] {alike : σ → τ → Prop} {feed : σ}
    {other : τ} (agreed : Agree alike (run program feed) (run program other))
    (faults : ∀ {rest rest'}, alike rest rest' → Feed.fault rest = Feed.fault rest') :
    Feed.parse feed = Feed.parse other := by
  cases ran : run program feed with
  | ok parsed rest =>
    rw [ran] at agreed
    obtain ⟨rest',ran',related⟩ := agreed.of_ok
    rw [Feed.parse_of_ok ran,Feed.parse_of_ok ran',faults related]
  | error reason rest =>
    rw [ran] at agreed
    obtain ⟨reason',rest',ran',related,same⟩ := agreed.of_error
    have placed : Feed.endSpan rest = Feed.endSpan rest' := Feed.endSpan_congr (faults related)
    rw [Feed.parse_of_error ran,Feed.parse_of_error ran',faults related,same placed]

private theorem parse_of_sameUntilEnd {stream other : Stream} (steady : stream.Steady)
    (steady' : other.Steady) (related : SameUntilEnd stream other) :
    stream.parse = other.parse := by
  -- Both runs are taken under one bound that suffices for either.
  let bound := 8 * max stream.pending other.pending + 7
  have here : run program stream = program bound stream := run_program_eq steady (by omega)
  have there : run program other = program bound other := run_program_eq steady' (by omega)
  have agreed := program_tracks sameUntilEnd_lockstep bound related
  rw [← here,← there] at agreed
  apply Feed.parse_of_agree agreed
  intro rest rest' reached
  obtain ⟨_,_,_,_,_,_,_,_,sound,sound'⟩ := reached
  rw [Stream.feed_fault,Stream.feed_fault,fault_of_sound sound,fault_of_sound sound']

theorem Stream.ofText_tokens (source : String) :
    (Stream.ofText source).tokens = (Cursor.ofText source).scan.1 := by
  unfold ofText ofCursor
  split <;> next found => rw [found]

theorem Stream.ofCursor_steady (cursor : Cursor) : (Stream.ofCursor cursor).Steady := by
  unfold Steady ofCursor
  split
  · simp
  · next lexemes found =>
    intro _
    obtain ⟨inner,final,held,eof,_⟩ := cursor.scan_ends.1 (by rw [found])
    rw [found] at held
    dsimp only at held ⊢
    exact ⟨final,by simp [held],eof⟩

theorem Stream.ofText_steady (source : String) : (Stream.ofText source).Steady :=
  Stream.ofCursor_steady (Cursor.ofText source)

private theorem Cursor.gathered_last {final : Lexeme} {pieces : List Piece}
    (faultless : (gathered final pieces).2 = none) :
    (gathered final pieces).1.getLast? = some final := by
  induction pieces with
  | nil => rfl
  | cons piece pieces ih =>
    cases piece with
    | error error => cases faultless
    | ok lexeme =>
      rw [gathered,List.getLast?_cons,ih faultless]
      rfl

private theorem Cursor.scan_last {source : String}
    (faultless : (Cursor.ofText source).scan.2 = none) :
    (Cursor.ofText source).scan.1.getLast? = some (endToken (.ofNat source.utf8ByteSize)) := by
  obtain ⟨pieces,laid⟩ := exists_laid (textPlace source.toList) 0 source.toList
  rw [laid.scan_text] at faultless ⊢
  exact gathered_last faultless

private theorem Stream.ended_current {stream : Stream} (ended : stream.notEof = false)
    {first : Lexeme}
    {others : List Lexeme} (left : stream.tokens = first :: others) : first.token = .eof := by
  have found : stream.current = some first := by rw [current,left]; rfl
  rw [notEof_of_current found] at ended
  simpa using ended

/-- A text is accepted only if it has no fault, and the parser then stops at its end. -/
theorem Parser.run_ends {source : String} {parsed : Program} {rest : Stream}
    (ran : run program (Stream.ofText source) = .ok parsed rest) (clear : rest.fault = none) :
    ∃ inner, tokenize source = .ok (inner ++ [Cursor.endToken (.ofNat source.utf8ByteSize)]) ∧
      rest = ⟨[Cursor.endToken (.ofNat source.utf8ByteSize)],.endless⟩ := by
  obtain ⟨_,⟨taken,_,_,parts,same,steady⟩,_,ended⟩ :=
    program_yields (Stream.ofText_steady source) ran
  obtain ⟨tokens,ending⟩ := rest
  cases scanned : (Cursor.ofText source).scan with
  | mk lexemes fault =>
    cases fault with
    | some error =>
      have stream : Stream.ofText source = ⟨lexemes,.failed error⟩ := by
        simp only [Stream.ofText,Stream.ofCursor,scanned]
      have inner := ((Cursor.ofText source).scan_ends.2 error (by rw [scanned])).1
      rw [scanned] at inner
      simp only [stream] at parts same
      subst same
      cases tokens with
      | nil => cases clear
      | cons first others =>
        have final := Stream.ended_current ended rfl
        exact (inner first (by simp [parts]) final).elim
    | none =>
      have stream : Stream.ofText source = ⟨lexemes,.endless⟩ := by
        simp only [Stream.ofText,Stream.ofCursor,scanned]
      have last : (Cursor.ofText source).scan.1.getLast? = _ := Cursor.scan_last (by rw [scanned])
      obtain ⟨inner,final,whole,_,apart⟩ := (Cursor.ofText source).scan_ends.1 (by rw [scanned])
      rw [scanned] at last whole
      dsimp only at last whole
      obtain rfl : final = Cursor.endToken (.ofNat source.utf8ByteSize) := by
        simpa [whole] using last
      simp only [stream] at parts same
      subst same
      refine ⟨inner,by simp only [tokenize,scanned,whole],?_⟩
      cases tokens with
      | nil =>
        obtain ⟨_,absent,_⟩ := steady rfl
        cases absent
      | cons first others =>
        have eof := Stream.ended_current ended rfl
        cases others with
        | nil =>
          obtain ⟨_,single⟩ := List.append_inj' (parts.symm.trans whole) rfl
          rw [single]
        | cons second others =>
          -- The end token is the last of all, and something stands behind this one.
          have front := congrArg List.dropLast (parts.symm.trans whole)
          rw [List.dropLast_append_of_ne_nil (by simp),List.dropLast_concat] at front
          exact (apart first (by simp [← front]) eof).elim

theorem parse_of_tokenize {source : String} {tokens : List Lexeme}
    (scanned : tokenize source = .ok tokens) (junk : List Lexeme) :
    parseText source = parseLexemes (tokens ++ junk) := by
  unfold tokenize at scanned
  split at scanned
  · cases scanned
  · next lexemes whole =>
    obtain rfl := Except.ok.inj scanned
    have sound : (Cursor.ofText source).scan.2 = none := by rw [whole]
    obtain ⟨inner,final,held,eof,apart⟩ := (Cursor.ofText source).scan_ends.1 sound
    rw [whole] at held
    dsimp only at held
    have stream : Stream.ofText source = ⟨lexemes,.endless⟩ := by
      simp only [Stream.ofText,Stream.ofCursor,whole]
    rw [parseText,parseLexemes]
    apply parse_of_sameUntilEnd (Stream.ofText_steady source) (Stream.ofLexemes_steady _)
    · rw [stream]
      refine ⟨inner,final,[],junk,eof,apart,held,?_,by simp,by simp [Stream.ofLexemes]⟩
      simp only [Stream.ofLexemes,held,List.append_assoc,List.singleton_append]

/-- The parser gives up at the token with this index, for this reason. -/
def RejectsAt (stream : Stream) (index : Nat) (reason : ParseError) : Prop :=
  ∃ rest, run program stream = .error reason rest ∧ rest.tokens = stream.tokens.drop index

private theorem fault_of_two {stream : Stream} (two : 2 ≤ stream.tokens.length) :
    stream.fault = none := by
  unfold Stream.fault
  split
  · rfl
  · next _ fewer =>
    obtain ⟨tokens,ending⟩ := stream
    match tokens with
    | [] => simp at two
    | [_] => simp at two
    | first :: second :: others => exact (fewer first second others rfl).elim
  · rfl

theorem fault_of_few {stream : Stream} {error : LexError} (few : stream.tokens.length < 2)
    (failed : stream.ending = .failed error) : stream.fault = some error := by
  obtain ⟨tokens,ending⟩ := stream
  subst failed
  match tokens with
  | [] => rfl
  | [_] => rfl
  | first :: second :: others =>
    simp only [List.length_cons] at few
    omega

private theorem run_of_failed (tokens : List Lexeme) (error : LexError) :
    Agree (SameTokens tokens error) (run program ⟨tokens,.failed error⟩)
      (run program (Stream.ofLexemes tokens)) :=
  program_tracks (sameTokens_lockstep tokens error) _ ⟨List.suffix_rfl,rfl,rfl,rfl⟩

/-- A rejection before the fault came into view is the one the tokens alone meet. -/
theorem parse_of_rejected {tokens : List Lexeme} {error : LexError} {index : Nat}
    {reason : ParseError} (early : index + 1 < tokens.length)
    (rejected : RejectsAt ⟨tokens,.failed error⟩ index reason) :
    (⟨tokens,.failed error⟩ : Stream).parse = .error reason ∧
      parseLexemes tokens = .error reason := by
  obtain ⟨rest,ran,left⟩ := rejected
  have two : 2 ≤ rest.tokens.length := by
    rw [left,List.length_drop]
    dsimp only
    omega
  have agreed := run_of_failed tokens error
  rw [ran] at agreed
  obtain ⟨reason',rest',ran',⟨_,shared,_⟩,same⟩ := agreed.of_error
  have unseen : rest.fault = none := fault_of_two two
  have unseen' : rest'.fault = none := fault_of_two (shared ▸ two)
  have placed : rest.endSpan = rest'.endSpan := Feed.endSpan_congr (unseen.trans unseen'.symm)
  rw [parseLexemes,parse_of_error ran,parse_of_error ran',unseen,unseen',same placed]
  exact ⟨rfl,rfl⟩

private theorem parse_of_fault {tokens : List Lexeme} {error : LexError}
    (apart : ∀ lexeme ∈ tokens, lexeme.token ≠ .eof)
    (late : ∀ index reason, index + 1 < tokens.length →
      ¬ RejectsAt ⟨tokens,.failed error⟩ index reason) :
    (⟨tokens,.failed error⟩ : Stream).parse = .error ⟨.lexical error,error.span⟩ := by
  have agreed := run_of_failed tokens error
  cases ran : run program (⟨tokens,.failed error⟩ : Stream) with
  | ok parsed rest =>
    rw [ran] at agreed
    obtain ⟨_,_,within,_,failed,_⟩ := agreed.of_ok
    have steady : (⟨tokens,.failed error⟩ : Stream).Steady := Stream.steady_of_ending (by simp)
    obtain ⟨_,_,_,ended⟩ := program_yields steady ran
    have empty : rest.tokens = [] := by
      cases left : rest.tokens with
      | nil => rfl
      | cons first others =>
        have final := Stream.ended_current ended left
        exact (apart first (within.mem (by simp [left])) final).elim
    rw [parse_of_ok ran,fault_of_few (by simp [empty]) failed]
  | error reason rest =>
    rw [ran] at agreed
    obtain ⟨_,_,_,⟨within,_,failed,_⟩,_⟩ := agreed.of_error
    have few : rest.tokens.length < 2 := by
      apply Nat.lt_of_not_le
      intro two
      have shorter := within.length_le
      apply late (tokens.length - rest.tokens.length) reason (by omega)
      exact ⟨rest,ran,List.suffix_iff_eq_drop.mp within⟩
    rw [parse_of_error ran,fault_of_few few failed]

/-- A text, its characters and its tokens give the same program or the same error. With a fault
in the text there is no program; the fault is reported unless the parser rejects a token that
has another one behind it, and then the tokens alone are rejected for the same reason. -/
theorem entries_agree (source : String) :
    parseText source = parseChars source.toList ∧
    (∀ tokens, tokenize source = .ok tokens → parseText source = parseLexemes tokens ∧
      ∀ junk, parseText source = parseLexemes (tokens ++ junk)) ∧
    (∀ error, tokenize source = .error error → ∃ tokens,
      (Cursor.ofText source).items (tokens.length + 1) = tokens.map .ok ++ [.error error] ∧
      (∀ parsed, parseText source ≠ .ok parsed) ∧
      (∀ index reason, index + 1 < tokens.length →
        RejectsAt (Stream.ofText source) index reason →
        parseText source = .error reason ∧ parseLexemes tokens = .error reason) ∧
      ((∀ index reason, index + 1 < tokens.length →
        ¬ RejectsAt (Stream.ofText source) index reason) →
        parseText source = .error ⟨.lexical error,error.span⟩)) := by
  refine ⟨?_,?_,?_⟩
  · rw [parseText,parseChars,Stream.ofText,Stream.ofChars,Cursor.ofText_eq]
  · intro tokens scanned
    have agreed := parse_of_tokenize scanned
    exact ⟨by simpa using agreed [],agreed⟩
  · intro error scanned
    unfold tokenize at scanned
    split at scanned
    · next tokens found whole =>
      obtain rfl : found = error := Except.error.inj scanned
      have fault : (Cursor.ofText source).scan.2 = some found := by rw [whole]
      obtain ⟨apart,read⟩ := (Cursor.ofText source).scan_ends.2 found fault
      have stream : Stream.ofText source = ⟨tokens,.failed found⟩ := by
        simp only [Stream.ofText,Stream.ofCursor,whole]
      rw [whole] at apart read
      rw [parseText,stream]
      refine ⟨tokens,read,?_,fun _ _ => parse_of_rejected,parse_of_fault apart⟩
      intro parsed accepted
      by_cases late : ∀ index reason, index + 1 < tokens.length →
          ¬ RejectsAt ⟨tokens,.failed found⟩ index reason
      · rw [parse_of_fault apart late] at accepted
        cases accepted
      · simp only [Classical.not_forall,Classical.not_not] at late
        obtain ⟨index,reason,early,rejected⟩ := late
        rw [(parse_of_rejected early rejected).1] at accepted
        cases accepted
    · cases scanned

end Scriptlet
