import Scriptlet.Proofs.Parser.Awaited
import Scriptlet.Proofs.Parser.Joined

/-! Texts that end too early. A rejected text is the beginning of a program exactly if it is
rejected at its end; whether the error says so depends on the last token alone. -/
namespace Scriptlet
open Cursor Scriptlet.Parser

/-- The tokens are a proper beginning of those of some program. -/
def Incomplete (lexemes : List Lexeme) : Prop :=
  ∃ more place parsed, more ≠ [] ∧ parseLexemes (lexemes ++ more ++ [⟨.eof,place⟩]) = .ok parsed

/-- The last of the tokens has to be followed by a name. -/
def EndsAwaiting (lexemes : List Lexeme) : Prop :=
  ∃ front last, lexemes = front ++ [last] ∧ last.token.awaitsName = true

section
variable {source : String} {inner : List Lexeme} {reason : ParseError} {size : UInt32}

private theorem split_final {before behind : List Lexeme} {offending final : Lexeme}
    (whole : inner ++ [final] = before ++ offending :: behind) :
    (before = inner ∧ offending = final) ∨ ∃ init, inner = before ++ offending :: init := by
  rcases List.eq_nil_or_concat behind with rfl | ⟨init,last,rfl⟩
  · obtain ⟨rfl,single⟩ := List.append_inj' whole rfl
    exact .inl ⟨rfl,(List.cons.inj single).1.symm⟩
  · have ends : inner ++ [final] = (before ++ offending :: init) ++ [last] := by simpa using whole
    exact .inr ⟨init,(List.append_inj' ends rfl).1⟩

theorem Cursor.Inner.final (held : Inner inner size) {rest : Stream} {lexeme : Lexeme}
    (left : Leaves (inner ++ [endToken size]) rest) (found : rest.current = some lexeme)
    (eof : lexeme.token = .eof) : rest.tokens = [endToken size] := by
  obtain ⟨front,whole⟩ := left.suffix
  obtain ⟨others,parts⟩ := List.head?_eq_some_iff.mp found
  rw [parts] at whole ⊢
  rcases split_final whole.symm with ⟨rfl,_⟩ | ⟨init,rfl⟩
  · exact List.append_cancel_left whole
  · exact (held.apart lexeme (by simp) eof).elim

private theorem awaits_final {rest : Stream} (final : rest.tokens = [endToken size]) :
    Awaits (inner ++ [endToken size]) rest ↔ EndsAwaiting inner := by
  constructor
  · rintro ⟨front,last,whole,awaits⟩
    have whole : inner ++ [endToken size] = (front ++ [last]) ++ [endToken size] := by
      simpa [final] using whole
    exact ⟨front,last,(List.append_inj' whole rfl).1,awaits⟩
  · rintro ⟨front,last,rfl,awaits⟩
    exact ⟨front,last,by simp [final],awaits⟩

/-- An error about the end that is not about the bound is met where no name is awaited. -/
theorem Cursor.Inner.told_ending (held : Inner inner size) (positive : 0 < size) {rest : Stream}
    (endless : rest.ending = .endless)
    (told : Told (inner ++ [endToken size]) ⟨.unexpectedEof,⟨size,size⟩⟩ rest) :
    ¬ EndsAwaiting inner := by
  generalize same : (⟨.unexpectedEof,⟨size,size⟩⟩ : ParseError) = reason at told
  cases told with
  | ident => simp at same
  | @ending span rest between found =>
    have final := held.final between.toLeaves found rfl
    exact fun awaiting => between.free ((awaits_final final).mpr awaiting)
  | used =>
    rw [endSpan_of_sound (by simp [endless])] at same
    have zero : size = 0 := congrArg (fun reason => reason.span.start) same
    exact (UInt32.lt_irrefl 0 (zero ▸ positive)).elim
  | other named proper => exact (proper (same ▸ rfl)).elim

private theorem Cursor.Inner.told_ident (held : Inner inner size) {rest : Stream}
    (told : Told (inner ++ [endToken size]) ⟨.expectedIdent,⟨size,size⟩⟩ rest) :
    EndsAwaiting inner := by
  generalize same : (⟨.expectedIdent,⟨size,size⟩⟩ : ParseError) = reason at told
  cases told with
  | @ident lexeme rest left found awaited =>
    have place : lexeme.span = ⟨size,size⟩ := (congrArg ParseError.span same).symm
    have member := left.suffix.mem (List.mem_of_head? found)
    have eof : lexeme.token = .eof := by
      rcases List.mem_append.mp member with before | final
      · have filled := held.filled lexeme before
        simp [place] at filled
      · rw [List.mem_singleton.mp final]
        rfl
    exact (awaits_final (held.final left found eof)).mp (awaited eof)
  | ending => simp at same
  | used => simp at same
  | other named proper => exact (named (same ▸ rfl)).elim

private theorem text_fails {lexemes : List Lexeme} (scanned : tokenize source = .ok lexemes)
    (rejected : parseText source = .error reason) (least : Nat) :
    ∃ bound, ∃ rest : Stream, least ≤ bound ∧ rest.ending = .endless ∧
      statements bound ⟨lexemes,.endless⟩ = .error reason rest ∧
      Breaks (statements bound) ⟨lexemes,.endless⟩ reason Continues := by
  have steady := Stream.ofText_steady source
  rw [parseText] at rejected
  rw [Stream.ofText_of_tokenize scanned] at rejected steady
  let bound := max least (8 * (⟨lexemes,.endless⟩ : Stream).pending + 7)
  have enough : _ ≤ bound := Nat.le_max_right _ _
  obtain ⟨rest,failed⟩ := (parse_error_iff steady (by simp) enough).mp rejected
  have endless := program_error_ending (program_error.mpr failed)
  refine ⟨bound,rest,Nat.le_max_left _ _,endless,failed,?_⟩
  rcases statements_break steady enough failed with ⟨none,_,steady'⟩ | breaks
  · obtain ⟨last,some,_⟩ := steady' endless
    simp [none] at some
  · exact breaks

private theorem text_between {lexemes : List Lexeme} (scanned : tokenize source = .ok lexemes) :
    Between lexemes ⟨lexemes,.endless⟩ := by
  have steady := Stream.ofText_steady source
  rw [Stream.ofText_of_tokenize scanned] at steady
  refine ⟨⟨steady,List.suffix_rfl⟩,?_⟩
  rintro ⟨front,last,whole,_⟩
  have longer := congrArg List.length whole
  simp only [List.length_append,List.length_cons] at longer
  omega

theorem Cursor.Inner.positive (held : Inner inner size)
    (scanned : tokenize source = .ok (inner ++ [endToken size]))
    (rejected : parseText source = .error reason) : 0 < size := by
  cases inner with
  | nil =>
    -- A text without tokens is a program.
    rw [parse_of_tokenize scanned []] at rejected
    cases rejected
  | cons lexeme others =>
    have filled := held.filled lexeme (by simp)
    have within := held.within lexeme (by simp)
    exact UInt32.lt_of_le_of_lt (Nat.zero_le _) (UInt32.lt_of_lt_of_le filled within)

/-- A text is a proper beginning of a program exactly if it is rejected at its end. -/
theorem incomplete_iff (scanned : tokenize source = .ok (inner ++ [endToken size]))
    (held : Inner inner size) (rejected : parseText source = .error reason) :
    Incomplete inner ↔
      reason = ⟨.unexpectedEof,⟨size,size⟩⟩ ∨
      reason = ⟨.expectedIdent,⟨size,size⟩⟩ := by
  constructor
  · rintro ⟨more,place,parsed,_,accepted⟩
    let longer := Stream.ofLexemes (inner ++ more ++ [⟨.eof,place⟩])
    obtain ⟨bound,_,enough,_,_,before,offending,behind,whole,blamed,_,same⟩ :=
      text_fails scanned rejected (8 * longer.pending + 7)
    rcases split_final whole with ⟨rfl,rfl⟩ | ⟨init,front⟩
    · cases blamed with
      | ident => exact .inr rfl
      | ending => exact .inl rfl
      | token inner => exact (inner rfl).elim
    · -- The longer tokens would be rejected at the same one.
      obtain ⟨rest,failed⟩ := same longer (init ++ more ++ [⟨.eof,place⟩])
        (by simp [longer,front,Stream.ofLexemes])
      have again := (parse_error_iff (Stream.ofLexemes_steady _) (by simp [Stream.ofLexemes])
        enough).mpr ⟨rest,failed⟩
      cases again.symm.trans accepted
  · intro ended
    obtain ⟨_,_,_,_,_,before,offending,behind,whole,blamed,continues,_⟩ :=
      text_fails scanned rejected 0
    rcases split_final whole with ⟨rfl,rfl⟩ | ⟨init,front⟩
    · obtain ⟨more,onward⟩ := continues
      obtain ⟨trees,rest,parses⟩ := onward ⟨size,size⟩
      obtain ⟨parsed,accepted⟩ := parseLexemes_of_parses parses
      refine ⟨more,_,parsed,?_,accepted⟩
      rintro rfl
      have whole := parse_of_tokenize scanned []
      rw [List.append_nil] at accepted whole
      cases (rejected.symm.trans whole).trans accepted
    · have member : offending ∈ inner := by simp [front]
      have apart := held.apart offending member
      have filled := held.filled offending member
      cases blamed with
      | ident =>
        rcases ended with same | same
        · cases same
        · obtain ⟨_,rfl⟩ := ParseError.mk.inj same
          exact (UInt32.lt_irrefl _ filled).elim
      | ending => exact (apart rfl).elim
      | token | number | constant => rcases ended with same | same <;> cases same

end

/-- A text that is rejected although it is the beginning of a program is told to end too early,
unless its last token is a dot or opens a declaration: then the name behind that is told to be
missing. No other text is told to end too early. A text whose positions do not wrap around is
meant. -/
theorem early_ends_told {source : String} (fits : source.utf8ByteSize < UInt32.size)
    {inner : List Lexeme} {place : Span} {reason : ParseError}
    (scanned : tokenize source = .ok (inner ++ [⟨.eof,place⟩]))
    (rejected : parseText source = .error reason) :
    (reason.fault = .unexpectedEof ↔ Incomplete inner ∧ ¬ EndsAwaiting inner) ∧
    (reason = ⟨.expectedIdent,place⟩ ↔ Incomplete inner ∧ EndsAwaiting inner) := by
  obtain ⟨_,same,held⟩ := inner_of_tokenize fits scanned
  obtain ⟨rfl,single⟩ := List.append_inj' same rfl
  generalize UInt32.ofNat source.utf8ByteSize = size at single held
  obtain rfl : place = ⟨size,size⟩ := by simpa [endToken] using single
  have incomplete := incomplete_iff scanned held rejected
  obtain ⟨bound,rest,_,endless,failed,before,offending,behind,whole,blamed,_⟩ :=
    text_fails scanned rejected 0
  have told := statements_mind bound (text_between scanned)
  rw [failed] at told
  have positive := held.positive scanned rejected
  have ends (early : reason.fault = .unexpectedEof) :
      reason = ⟨.unexpectedEof,⟨size,size⟩⟩ := by
    cases blamed with
    | @ending before span =>
      rcases split_final whole with ⟨_,final⟩ | ⟨init,front⟩
      · rw [(Lexeme.mk.inj final).2]
      · exact (held.apart ⟨.eof,span⟩ (by simp [front]) rfl).elim
    | _ => cases early
  constructor <;> constructor
  · intro early
    obtain rfl := ends early
    exact ⟨incomplete.mpr (.inl rfl),held.told_ending positive endless told⟩
  · rintro ⟨begun,free⟩
    rcases incomplete.mp begun with rfl | rfl
    · rfl
    · exact (free (held.told_ident told)).elim
  · rintro rfl
    exact ⟨incomplete.mpr (.inr rfl),held.told_ident told⟩
  · rintro ⟨begun,awaiting⟩
    rcases incomplete.mp begun with rfl | rfl
    · exact (held.told_ending positive endless told awaiting).elim
    · rfl

/-- A call without its closing parenthesis. -/
theorem early_ends_told_call :
    let inner : List Lexeme := [⟨.ident "f",⟨0,1⟩⟩,⟨.leftParen,⟨1,2⟩⟩]
    "f(".utf8ByteSize < UInt32.size ∧ tokenize "f(" = .ok (inner ++ [⟨.eof,⟨2,2⟩⟩]) ∧
    parseText "f(" = .error ⟨.unexpectedEof,⟨2,2⟩⟩ ∧ Incomplete inner ∧ ¬ EndsAwaiting inner := by
  intro inner
  have scanned : tokenize "f(" = .ok (inner ++ [⟨.eof,⟨2,2⟩⟩]) := by
    rw [tokenize,Cursor.ofText_eq]
    decide +kernel
  have rejected : parseText "f(" = .error ⟨.unexpectedEof,⟨2,2⟩⟩ := by
    rw [parse_of_tokenize scanned []]
    rfl
  have fits : "f(".utf8ByteSize < UInt32.size := by decide
  exact ⟨fits,scanned,rejected,(early_ends_told fits scanned rejected).1.mp rfl⟩

/-- A declaration that ends behind its keyword is the beginning of a program, but is not told to
end too early. -/
theorem keyword_end_untold :
    let inner : List Lexeme := [⟨.letWord,⟨0,3⟩⟩]
    let reason : ParseError := ⟨.expectedIdent,⟨3,3⟩⟩
    tokenize "let" = .ok (inner ++ [⟨.eof,⟨3,3⟩⟩]) ∧ parseText "let" = .error reason ∧
    ¬ (reason.fault = .unexpectedEof ↔ Incomplete inner) := by
  intro inner reason
  have scanned : tokenize "let" = .ok (inner ++ [⟨.eof,⟨3,3⟩⟩]) := by
    rw [tokenize,Cursor.ofText_eq]
    decide +kernel
  have rejected : parseText "let" = .error reason := by
    rw [parse_of_tokenize scanned []]
    rfl
  have begun : Incomplete inner :=
    ⟨[⟨.ident "a",⟨4,5⟩⟩,⟨.semicolon,⟨5,6⟩⟩],⟨6,6⟩,_,by simp,rfl⟩
  refine ⟨scanned,rejected,fun told => ?_⟩
  cases told.mpr begun

end Scriptlet
