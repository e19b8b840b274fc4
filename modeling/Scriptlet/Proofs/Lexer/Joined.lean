import Scriptlet.Proofs.Lexer.Lossless

/-! Two texts, one behind the other. A blank keeps the last token of the first text apart from the
first of the second, so the tokens of the whole are those of both, the second ones moved. -/
namespace Scriptlet

private theorem Piece.shift_zero : Piece.shift 0 = id := by
  funext piece
  cases piece <;> simp [shift,Lexeme.shift,Span.shift]

namespace Cursor

private theorem textPlace_front {chars more : List Char} {index : Nat}
    (within : index ≤ chars.length) :
    textPlace (chars ++ more) index = textPlace chars index := by
  rw [textPlace,textPlace,bytesBefore,bytesBefore,List.take_append_of_le_length within]

variable [Alphabet]

section
variable {taken rest : List Char} {make : Span → Piece}

/-- A blank may follow the characters behind a piece, even where there are none. -/
theorem Forms.append (proper : Alphabet.Proper) (formed : Forms taken rest make) {c : Char}
    (skipped : isBlank c = true) (more : List Char) : Forms taken (rest ++ c :: more) make := by
  have ends {keep : Char → Bool} (stops : keep c = false)
      (apart : ∀ d ∈ rest.head?, keep d = false) :
      ∀ d ∈ (rest ++ c :: more).head?, keep d = false := by
    cases rest with
    | nil => simpa using stops
    | cons d rest => simpa using apart
  cases formed with
  | symbol single => exact .symbol single
  | numeral read apart =>
    refine .numeral read (ends ?_ apart)
    cases digit : c.isDigit with
    | false => rfl
    | true => simp [blank_of_digit digit] at skipped
  | word solid plain digit letters apart =>
    exact .word solid plain digit letters (ends (proper c (by simp [skipped])) apart)
  | foreign alien => exact .foreign alien

end

section
variable {place : Nat → UInt32} {index : Nat} {chars : List Char} {pieces : List Piece}

theorem Laid.append (proper : Alphabet.Proper) (laid : Laid place index chars pieces) {c : Char}
    (skipped : isBlank c = true) {more : List Char} {others : List Piece}
    (later : Laid place (index + chars.length + 1) more others) :
    Laid place index (chars ++ c :: more) (pieces ++ others) := by
  induction laid with
  | done => exact .blank skipped later
  | @blank index d rest pieces passed _ ih =>
    have reach : index + (d :: rest).length = index + 1 + rest.length := by
      simp only [List.length_cons]
      omega
    exact .blank passed (ih (reach ▸ later))
  | @piece index taken rest make pieces formed _ ih =>
    rw [List.length_append,← Nat.add_assoc] at later
    rw [List.append_assoc]
    exact .piece (formed.append proper skipped more) (ih later)

end

omit [Alphabet] in
structure Inner (inner : List Lexeme) (size : UInt32) : Prop where
  apart : ∀ lexeme ∈ inner, lexeme.token ≠ .eof
  filled : ∀ lexeme ∈ inner, lexeme.span.start < lexeme.span.stop
  within : ∀ lexeme ∈ inner, lexeme.span.stop ≤ size

theorem inner_of_tokenize {source : String} (fits : source.utf8ByteSize < UInt32.size)
    {lexemes : List Lexeme} (scanned : tokenize source = .ok lexemes) :
    ∃ inner, lexemes = inner ++ [endToken (.ofNat source.utf8ByteSize)] ∧
      Inner inner (.ofNat source.utf8ByteSize) := by
  obtain ⟨inner,rfl,laid⟩ := tokenize_eq_ok.mp scanned
  have bounds (lexeme : Lexeme) (member : lexeme ∈ inner) :=
    laid.bounds (text_grows fits) (.ok lexeme) (List.mem_map_of_mem member)
  rw [Nat.zero_add,textPlace_end] at bounds
  refine ⟨inner,rfl,?_,?_,?_⟩
  · intro lexeme member
    exact laid.ne_eof (List.mem_map_of_mem member)
  · intro lexeme member
    exact (bounds lexeme member).2.1
  · intro lexeme member
    exact (bounds lexeme member).2.2

omit [Alphabet] in
theorem utf8ByteSize_join (first second : String) : (first ++ "\n" ++ second).utf8ByteSize =
    second.utf8ByteSize + (first.utf8ByteSize + 1) := by
  have one : "\n".utf8ByteSize = 1 := by decide
  rw [String.utf8ByteSize_append,String.utf8ByteSize_append,one,Nat.add_comm]

omit [Alphabet] in
theorem endToken_join (first second : String) :
    (endToken (.ofNat second.utf8ByteSize)).shift (.ofNat (first.utf8ByteSize + 1)) =
      endToken (.ofNat (first ++ "\n" ++ second).utf8ByteSize) := by
  rw [utf8ByteSize_join,UInt32.ofNat_add second.utf8ByteSize]
  rfl

theorem tokenize_join (proper : Alphabet.Proper) {first second : String}
    {inner others : List Lexeme}
    (read : tokenize first = .ok (inner ++ [endToken (.ofNat first.utf8ByteSize)]))
    (read' : tokenize second = .ok others) :
    tokenize (first ++ "\n" ++ second) =
      .ok (inner ++ others.map (Lexeme.shift (.ofNat (first.utf8ByteSize + 1)))) := by
  obtain ⟨inner,same,laid⟩ := tokenize_eq_ok.mp read
  obtain rfl := List.append_cancel_right same
  obtain ⟨more,rfl,laid'⟩ := tokenize_eq_ok.mp read'
  have whole : (first ++ "\n" ++ second).toList = first.toList ++ '\n' :: second.toList := by simp
  refine tokenize_eq_ok.mpr
    ⟨inner ++ more.map (Lexeme.shift (.ofNat (first.utf8ByteSize + 1))),?_,?_⟩
  · rw [List.map_append,List.map_singleton,endToken_join,List.append_assoc]
  · -- The first text stands where it stood, the second behind the break.
    rw [whole,List.map_append]
    have here : Laid (textPlace (first.toList ++ '\n' :: second.toList)) 0 first.toList
        ((inner.map .ok).map (Piece.shift 0)) := by
      refine laid.shift fun ahead within => ?_
      rw [Nat.zero_add,textPlace_front within,UInt32.add_zero]
    rw [Piece.shift_zero,List.map_id] at here
    have there : Laid (textPlace (first.toList ++ '\n' :: second.toList))
        (0 + first.toList.length + 1) second.toList
        ((more.map .ok).map (Piece.shift (.ofNat (first.utf8ByteSize + 1)))) := by
      refine laid'.shift fun ahead _ => ?_
      have apart : first.toList ++ '\n' :: second.toList =
          (first.toList ++ ['\n']) ++ second.toList := by simp
      have length : 0 + first.toList.length + 1 + ahead =
          (first.toList ++ ['\n']).length + ahead := by simp
      rw [apart,length,textPlace_behind,width_append,width_toList,Nat.zero_add]
      rfl
    have joined := here.append proper (show isBlank '\n' = true from rfl) there
    simp only [List.map_map] at joined
    rw [List.map_map]
    exact joined

end Cursor
end Scriptlet
