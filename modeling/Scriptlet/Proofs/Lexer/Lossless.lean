import Mathlib.Data.List.Basic
import Scriptlet.Proofs.Lexer.Layout

/-! What the tokens of a text say about the text. Tokens and faults stand in the order of their
characters, each exactly where its characters are, and everything between them is blank; a text
has tokens unless some character belongs to none, and then the first such character is reported. -/
namespace Scriptlet

/-- No letter is a blank, a symbol or a digit. -/
def Alphabet.Proper [Alphabet] : Prop :=
  ∀ c, (Cursor.isBlank c || (Token.symbol? c).isSome || c.isDigit) = true →
    Alphabet.letter c = false

namespace Token

def isNumeral : Token → Bool
  | number _ => true
  | _ => false

def isWord : Token → Bool
  | ident _ => true
  | letWord => true
  | constWord => true
  | _ => false

/-- Two numbers or two words, which would be one token if they touched. -/
def Merge (first second : Token) : Prop :=
  (first.isNumeral = true ∧ second.isNumeral = true) ∨ (first.isWord = true ∧ second.isWord = true)

end Token

namespace Span

def Apart (first second : Span) : Prop := first.stop ≤ second.start ∨ second.stop ≤ first.start

def Within (inner outer : Span) : Prop := outer.start ≤ inner.start ∧ inner.stop ≤ outer.stop

def Marks (span : Span) (before text : String) : Prop :=
  span.start.toNat = before.utf8ByteSize ∧ span.stop.toNat = (before ++ text).utf8ByteSize

theorem marks_ofNat {before text : String} (fits : (before ++ text).utf8ByteSize < UInt32.size) :
    (⟨.ofNat before.utf8ByteSize,.ofNat (before ++ text).utf8ByteSize⟩ : Span).Marks
      before text := by
  have within : before.utf8ByteSize ≤ (before ++ text).utf8ByteSize := by
    rw [String.utf8ByteSize_append]
    omega
  exact ⟨UInt32.toNat_ofNat_of_lt' (Nat.lt_of_le_of_lt within fits),UInt32.toNat_ofNat_of_lt' fits⟩

theorem marks_end {source : String} (fits : source.utf8ByteSize < UInt32.size) :
    (⟨.ofNat source.utf8ByteSize,.ofNat source.utf8ByteSize⟩ : Span).Marks source "" := by
  have size := UInt32.toNat_ofNat_of_lt' fits
  exact ⟨size,by rw [String.append_empty,size]⟩

end Span

namespace Cursor

private theorem symbol_class {c : Char} {token : Token} (single : Token.symbol? c = some token) :
    token.isNumeral = false ∧ token.isWord = false := by
  unfold Token.symbol? at single
  split at single <;> simp at single <;> subst single <;> exact ⟨rfl,rfl⟩

private theorem wordToken_class (word : String) :
    (wordToken word).isNumeral = false ∧ (wordToken word).isWord = true := by
  unfold wordToken Token.keyword?
  split
  · exact ⟨rfl,rfl⟩
  · split <;> exact ⟨rfl,rfl⟩

/-- A character is blank and apart from all pieces, or within one and apart from the others. -/
def Covered (pieces : List Piece) (c : Char) (spot : Span) : Prop :=
  (isBlank c = true ∧ ∀ piece ∈ pieces, spot.Apart piece.span) ∨
    (isBlank c = false ∧ ∃ earlier piece later, pieces = earlier ++ piece :: later ∧
      spot.Within piece.span ∧ ∀ other ∈ earlier ++ later, spot.Apart other.span)

theorem Covered.cons {pieces : List Piece} {c : Char} {spot : Span} {first : Piece}
    (covered : Covered pieces c spot)
    (apart : spot.Apart first.span) : Covered (first :: pieces) c spot := by
  rcases covered with ⟨skipped,others⟩ | ⟨solid,earlier,piece,later,rfl,within,others⟩
  · refine .inl ⟨skipped,?_⟩
    intro piece member
    rcases List.mem_cons.mp member with rfl | member
    · exact apart
    · exact others piece member
  · refine .inr ⟨solid,first :: earlier,piece,later,rfl,within,?_⟩
    intro other member
    rcases List.mem_cons.mp member with rfl | member
    · exact apart
    · exact others other member

private theorem gathered_sound (final : Lexeme) (lexemes : List Lexeme) :
    gathered final (lexemes.map .ok) = (lexemes ++ [final],none) := by
  induction lexemes with
  | nil => rfl
  | cons lexeme lexemes ih => rw [List.map_cons,gathered,ih,List.cons_append]

private theorem gathered_fault (final : Lexeme) (lexemes : List Lexeme) (error : LexError)
    (more : List Piece) :
    gathered final (lexemes.map .ok ++ .error error :: more) = (lexemes,some error) := by
  induction lexemes with
  | nil => rfl
  | cons lexeme lexemes ih => rw [List.map_cons,List.cons_append,gathered,ih]

private theorem gathered_ok {final : Lexeme} {pieces : List Piece} {lexemes : List Lexeme}
    (read : gathered final pieces = (lexemes,none)) :
    ∃ inner, pieces = inner.map .ok ∧ lexemes = inner ++ [final] := by
  induction pieces generalizing lexemes with
  | nil =>
    obtain ⟨rfl,_⟩ := Prod.mk.inj read
    exact ⟨[],rfl,rfl⟩
  | cons piece pieces ih =>
    cases piece with
    | error error => simp [gathered] at read
    | ok lexeme =>
      obtain ⟨rfl,sound⟩ := Prod.mk.inj read
      obtain ⟨inner,rfl,same⟩ := ih (Prod.ext rfl sound)
      exact ⟨lexeme :: inner,rfl,congrArg (List.cons lexeme) same⟩

def IsWordToken (token : Token) (word : String) : Prop :=
  (token = .letWord ↔ word = "let") ∧ (token = .constWord ↔ word = "const") ∧
    (token = .ident word ↔ word ≠ "let" ∧ word ≠ "const")

private theorem wordToken_isWordToken (word : String) : IsWordToken (wordToken word) word := by
  unfold IsWordToken wordToken Token.keyword?
  by_cases first : word = "let"
  · simp [first]
  · by_cases second : word = "const"
    · simp [second]
    · simp [first,second]

/-- The text stands at the span in the source. -/
def Occupies (source : String) (span : Span) (text : String) : Prop :=
  ∃ before after, source = before ++ text ++ after ∧ span.Marks before text

variable [Alphabet]

/-- Tokens that are all of a source but its blanks, each as long as it can be. -/
structure Lossless (source : String) (lexemes : List Lexeme) : Prop where
  inner : ∀ lexeme ∈ lexemes, lexeme.token ≠ .eof
  filled : ∀ lexeme ∈ lexemes, lexeme.span.start < lexeme.span.stop
  ordered : lexemes.Pairwise fun first second => first.span.stop ≤ second.span.start
  literal : ∀ lexeme ∈ lexemes, Occupies source lexeme.span lexeme.token.literal
  covered : ∀ c spot, Occupies source spot (String.singleton c) →
    Covered (lexemes.map .ok) c spot
  maximal : lexemes.Pairwise fun first second => first.span.stop = second.span.start →
    ¬ first.token.Merge second.token
  keyword : ∀ lexeme ∈ lexemes,
    (∀ c ∈ lexeme.token.literal.toList, Alphabet.letter c = true) →
      IsWordToken lexeme.token lexeme.token.literal

section
variable {taken rest : List Char} {make : Span → Piece} {span : Span} {lexeme : Lexeme}

theorem Forms.lexical (formed : Forms taken rest make) :
    (∃ c, taken = [c] ∧ isLexical c = false ∧ make = fun span => .error ⟨c,span⟩) ∨
      ((∀ c ∈ taken, isLexical c = true) ∧ ∀ span, ∃ lexeme, make span = .ok lexeme) := by
  cases formed with
  | symbol single => exact .inr ⟨by simp [isLexical,single],fun span => ⟨_,rfl⟩⟩
  | numeral read =>
    refine .inr ⟨?_,fun span => ⟨_,rfl⟩⟩
    intro c member
    simp [isLexical,read.2 c member]
  | word solid plain digit letters =>
    refine .inr ⟨?_,fun span => ⟨_,rfl⟩⟩
    intro c member
    simp [isLexical,letters c member]
  | foreign alien => exact .inl ⟨_,rfl,alien,rfl⟩

theorem Forms.solid (proper : Alphabet.Proper) (formed : Forms taken rest make) :
    ∀ c ∈ taken, isBlank c = false := by
  cases formed with
  | symbol single => simpa using blank_of_symbol single
  | numeral read =>
    intro c member
    exact blank_of_digit (read.2 c member)
  | word solid plain digit letters =>
    intro c member
    cases skipped : isBlank c with
    | false => rfl
    | true =>
      have other := proper c (by simp [skipped])
      rw [letters c member] at other
      cases other
  | foreign alien =>
    simp only [isLexical,Bool.or_eq_false_iff] at alien
    simpa using alien.1.1.1

private theorem Forms.numeral_ends (formed : Forms taken rest make) (made : make span = .ok lexeme)
    (number : lexeme.token.isNumeral = true) :
    (∀ c ∈ taken, c.isDigit = true) ∧ ∀ c ∈ rest.head?, c.isDigit = false := by
  cases formed with
  | symbol single =>
    obtain rfl := Except.ok.inj made
    simp [(symbol_class single).1] at number
  | numeral read apart => exact ⟨read.2,apart⟩
  | word =>
    obtain rfl := Except.ok.inj made
    simp [(wordToken_class _).1] at number
  | foreign => cases made

private theorem Forms.word_ends (formed : Forms taken rest make) (made : make span = .ok lexeme)
    (word : lexeme.token.isWord = true) :
    (∀ c ∈ taken, Alphabet.letter c = true) ∧ ∀ c ∈ rest.head?, Alphabet.letter c = false := by
  cases formed with
  | symbol single =>
    obtain rfl := Except.ok.inj made
    simp [(symbol_class single).2] at word
  | numeral =>
    obtain rfl := Except.ok.inj made
    cases word
  | word _ _ _ letters apart => exact ⟨letters,apart⟩
  | foreign => cases made

/-- Pieces that follow each other at once are neither two numbers nor two words. -/
theorem Forms.not_merge {taken' rest' : List Char} {make' : Span → Piece} {span' : Span}
    {lexeme' : Lexeme} (formed : Forms taken rest make) (made : make span = .ok lexeme)
    (next : Forms taken' rest' make') (made' : make' span' = .ok lexeme')
    (behind : rest = taken' ++ rest') : ¬ lexeme.token.Merge lexeme'.token := by
  obtain ⟨c,others,rfl⟩ := List.exists_cons_of_ne_nil next.ne_nil
  have head : c ∈ rest.head? := by simp [behind]
  rintro (⟨number,number'⟩ | ⟨word,word'⟩)
  · have digit := (next.numeral_ends made' number').1 c (by simp)
    have other := (formed.numeral_ends made number).2 c head
    rw [digit] at other
    cases other
  · have letter := (next.word_ends made' word').1 c (by simp)
    have other := (formed.word_ends made word).2 c head
    rw [letter] at other
    cases other

private theorem Forms.word_of_letters (proper : Alphabet.Proper) (formed : Forms taken rest make)
    (made : make span = .ok lexeme)
    (letters : ∀ c ∈ lexeme.token.literal.toList, Alphabet.letter c = true) :
    lexeme.token = wordToken lexeme.token.literal := by
  have text := formed.text span
  rw [made] at text
  change lexeme.token.literal = String.ofList taken at text
  rw [text,String.toList_ofList] at letters
  obtain ⟨c,others,rfl⟩ := List.exists_cons_of_ne_nil formed.ne_nil
  have letter := letters c (by simp)
  have plain (kind : (isBlank c || (Token.symbol? c).isSome || c.isDigit) = true) : False := by
    have other := proper c kind
    rw [letter] at other
    cases other
  cases formed with
  | symbol single => exact (plain (by simp [single])).elim
  | numeral read => exact (plain (by simp [read.2 c (by simp)])).elim
  | word =>
    obtain rfl := Except.ok.inj made
    rw [text]
  | foreign => cases made

end

/-! Pieces and their places. -/

section
variable {place : Nat → UInt32} {index : Nat} {chars : List Char} {pieces : List Piece}

/-- A piece is formed by the characters that stand at its span. -/
theorem Laid.slice (laid : Laid place index chars pieces) : ∀ piece ∈ pieces,
    ∃ before taken after make, chars = before ++ taken ++ after ∧ Forms taken after make ∧
      piece =
        make ⟨place (index + before.length),place (index + before.length + taken.length)⟩ := by
  induction laid with
  | done => simp
  | @blank index c rest pieces skipped more ih =>
    intro piece member
    obtain ⟨before,taken,after,make,rfl,formed,rfl⟩ := ih piece member
    have here : index + (c :: before).length = index + 1 + before.length := by
      simp only [List.length_cons]
      omega
    exact ⟨c :: before,taken,after,make,rfl,formed,by rw [here]⟩
  | @piece index front rest first pieces formed more ih =>
    intro piece member
    rcases List.mem_cons.mp member with rfl | member
    · exact ⟨[],front,rest,first,rfl,formed,rfl⟩
    · obtain ⟨before,taken,after,make,rfl,formed,rfl⟩ := ih piece member
      refine ⟨front ++ before,taken,after,make,by simp,formed,?_⟩
      rw [List.length_append,Nat.add_assoc index]

theorem Laid.ne_eof (laid : Laid place index chars pieces) {lexeme : Lexeme}
    (member : .ok lexeme ∈ pieces) : lexeme.token ≠ .eof := by
  obtain ⟨_,taken,rest,make,_,formed,made⟩ := laid.slice _ member
  exact formed.ne_eof made.symm

theorem Laid.bounds (laid : Laid place index chars pieces)
    (grows : Grows place (index + chars.length)) : ∀ piece ∈ pieces,
    place index ≤ piece.span.start ∧ piece.span.start < piece.span.stop ∧
      piece.span.stop ≤ place (index + chars.length) := by
  intro piece member
  obtain ⟨before,taken,after,make,rfl,formed,rfl⟩ := laid.slice piece member
  have some : 0 < taken.length := List.length_pos_iff.mpr formed.ne_nil
  simp only [List.length_append] at grows ⊢
  rw [formed.span]
  exact ⟨grows.le (by omega) (by omega),grows (by omega) (by omega),grows.le (by omega) (by omega)⟩

theorem Laid.touching (laid : Laid place index chars pieces)
    (grows : Grows place (index + chars.length)) {piece : Piece} (member : piece ∈ pieces)
    (here : piece.span.start = place index) :
    ∃ taken rest make span, chars = taken ++ rest ∧ Forms taken rest make ∧ piece = make span := by
  obtain ⟨before,taken,after,make,rfl,formed,rfl⟩ := laid.slice piece member
  rw [formed.span] at here
  cases before with
  | nil => exact ⟨taken,after,make,_,rfl,formed,rfl⟩
  | cons c before =>
    have later : (place index).toNat < (place (index + (c :: before).length)).toNat :=
      grows (by simp) (by simp only [List.length_append]; omega)
    exact (Nat.ne_of_gt later (congrArg UInt32.toNat here)).elim

/-- Pieces come one behind the other, and those that touch cannot be merged. -/
theorem Laid.ordered (laid : Laid place index chars pieces)
    (grows : Grows place (index + chars.length)) : pieces.Pairwise fun first second =>
    first.span.stop ≤ second.span.start ∧ (first.span.stop = second.span.start →
      ∀ lexeme lexeme', first = .ok lexeme → second = .ok lexeme' →
        ¬ lexeme.token.Merge lexeme'.token) := by
  induction laid with
  | done => exact .nil
  | @blank index c rest pieces skipped more ih =>
    have reach : index + (c :: rest).length = index + 1 + rest.length := by
      simp only [List.length_cons]
      omega
    exact ih (reach ▸ grows)
  | @piece index taken rest make pieces formed more ih =>
    rw [List.length_append,← Nat.add_assoc] at grows
    refine List.pairwise_cons.mpr ⟨?_,ih grows⟩
    intro second member
    rw [formed.span]
    refine ⟨(more.bounds grows second member).1,?_⟩
    intro touches lexeme lexeme' made made'
    obtain ⟨taken',rest',make',span',behind,next,rfl⟩ :=
      more.touching grows member touches.symm
    exact formed.not_merge made next made' behind

private theorem Laid.covers (proper : Alphabet.Proper) (laid : Laid place index chars pieces)
    (grows : Grows place (index + chars.length)) {before after : List Char} {c : Char}
    (whole : chars = before ++ c :: after) : Covered pieces c
      ⟨place (index + before.length),place (index + before.length + 1)⟩ := by
  induction laid generalizing before with
  | done => simp at whole
  | @blank index d rest pieces skipped more ih =>
    have reach : index + (d :: rest).length = index + 1 + rest.length := by
      simp only [List.length_cons]
      omega
    rw [reach] at grows
    cases before with
    | nil =>
      obtain ⟨rfl,rfl⟩ := List.cons_eq_cons.mp whole
      refine .inl ⟨skipped,?_⟩
      intro piece member
      exact .inl (more.bounds grows piece member).1
    | cons d' before =>
      obtain ⟨rfl,inner⟩ := List.cons_eq_cons.mp whole
      have there : index + (d :: before).length = index + 1 + before.length := by
        simp only [List.length_cons]
        omega
      rw [there]
      exact ih grows inner
  | @piece index taken rest make pieces formed more ih =>
    rw [List.length_append,← Nat.add_assoc] at grows
    rcases List.append_eq_append_iff.mp whole with ⟨between,rfl,inner⟩ | ⟨between,rfl,outer⟩
    · -- The character stands behind the piece.
      have there : index + (taken ++ between).length = index + taken.length + between.length := by
        rw [List.length_append,Nat.add_assoc]
      rw [there]
      refine (ih grows inner).cons (.inr ?_)
      rw [formed.span]
      exact grows.le (by omega) (by rw [inner]; simp only [List.length_append]; omega)
    · cases between with
      | nil =>
        have inner : rest = [] ++ c :: after := outer.symm
        have covered := ih grows inner
        simp only [List.length_nil,Nat.add_zero,List.append_nil] at covered ⊢
        refine covered.cons (.inr ?_)
        simp [formed.span]
      | cons d between =>
        obtain ⟨rfl,rfl⟩ := List.cons_eq_cons.mp outer
        have member : c ∈ before ++ c :: between := by simp
        have length : (before ++ c :: between).length = before.length + between.length + 1 := by
          simp only [List.length_append,List.length_cons]
          omega
        rw [length] at grows
        refine .inr ⟨formed.solid proper c member,[],_,pieces,rfl,?_,?_⟩
        · rw [formed.span,length]
          exact ⟨grows.le (by omega) (by omega),grows.le (by omega) (by omega)⟩
        · intro other later
          have bound := (more.bounds (length ▸ grows) other later).1
          rw [length] at bound
          exact .inl (Nat.le_trans (grows.le (by omega) (by omega)) bound)

/-! Faults. -/

theorem Laid.sound (laid : Laid place index chars pieces)
    (lexical : ∀ c ∈ chars, isLexical c = true) : ∃ lexemes : List Lexeme,
    pieces = lexemes.map .ok := by
  induction laid with
  | done => exact ⟨[],rfl⟩
  | blank skipped more ih =>
    exact ih fun c member => lexical c (by simp [member])
  | piece formed more ih =>
    obtain ⟨lexemes,rfl⟩ := ih fun c member => lexical c (by simp [member])
    rcases formed.lexical with ⟨c,rfl,alien,rfl⟩ | ⟨_,tokens⟩
    · have known := lexical c (by simp)
      rw [alien] at known
      cases known
    · obtain ⟨lexeme,made⟩ := tokens _
      exact ⟨lexeme :: lexemes,by rw [made,List.map_cons]⟩

/-- The first fault is the first character that is not lexical. -/
theorem Laid.fault (laid : Laid place index chars pieces) {before after : List Char} {c : Char}
    (whole : chars = before ++ c :: after) (lexical : ∀ d ∈ before, isLexical d = true)
    (alien : isLexical c = false) : ∃ (lexemes : List Lexeme) (more : List Piece),
    pieces = lexemes.map .ok ++ .error ⟨c,⟨place (index + before.length),
      place (index + before.length + 1)⟩⟩ :: more := by
  induction laid generalizing before with
  | done => simp at whole
  | @blank index d rest pieces skipped more ih =>
    cases before with
    | nil =>
      obtain ⟨rfl,_⟩ := List.cons_eq_cons.mp whole
      simp [isLexical,skipped] at alien
    | cons d' before =>
      obtain ⟨rfl,inner⟩ := List.cons_eq_cons.mp whole
      have there : index + (d :: before).length = index + 1 + before.length := by
        simp only [List.length_cons]
        omega
      rw [there]
      exact ih inner fun e member => lexical e (by simp [member])
  | @piece index taken rest make pieces formed more ih =>
    rcases formed.lexical with ⟨d,rfl,foreign,rfl⟩ | ⟨known,tokens⟩
    · cases before with
      | nil =>
        obtain ⟨rfl,_⟩ := List.cons_eq_cons.mp whole
        exact ⟨[],pieces,rfl⟩
      | cons d' before =>
        obtain ⟨rfl,_⟩ := List.cons_eq_cons.mp whole
        have other := lexical d (by simp)
        rw [foreign] at other
        cases other
    · -- The character is not among those of the token.
      obtain ⟨between,rfl,inner⟩ : ∃ between, before = taken ++ between ∧
          rest = between ++ c :: after := by
        rcases List.append_eq_append_iff.mp whole with ⟨between,rfl,inner⟩ | ⟨between,rfl,outer⟩
        · exact ⟨between,rfl,inner⟩
        · cases between with
          | nil => exact ⟨[],by simp,outer.symm⟩
          | cons d between =>
            obtain ⟨rfl,_⟩ := List.cons_eq_cons.mp outer
            have other := known c (by simp)
            rw [alien] at other
            cases other
      obtain ⟨lexemes,others,rfl⟩ := ih inner fun d member => lexical d (by simp [member])
      obtain ⟨lexeme,made⟩ := tokens ⟨place index,place (index + taken.length)⟩
      refine ⟨lexeme :: lexemes,others,?_⟩
      rw [made,List.length_append,Nat.add_assoc index,List.map_cons,List.cons_append]

end

/-! Texts. -/

omit [Alphabet] in
private theorem occupies_of_slice {source : String} (fits : source.utf8ByteSize < UInt32.size)
    {before taken after : List Char} (whole : source.toList = before ++ taken ++ after) :
    Occupies source ⟨textPlace source.toList before.length,
      textPlace source.toList (before.length + taken.length)⟩ (String.ofList taken) := by
  rw [← width_toList] at fits
  refine ⟨String.ofList before,String.ofList after,?_,?_,?_⟩
  · rw [← String.ofList_append,← String.ofList_append,← whole,String.ofList_toList]
  · rw [textPlace_toNat fits,whole,List.append_assoc,bytesBefore_append,width]
  · rw [textPlace_toNat fits,whole,← List.length_append,bytesBefore_append,
      ← String.ofList_append,width]

omit [Alphabet] in
private theorem slice_of_occupies {source : String} {spot : Span} {c : Char}
    (stands : Occupies source spot (String.singleton c)) :
    ∃ before after, source.toList = before ++ c :: after ∧
      spot = ⟨textPlace source.toList before.length,
        textPlace source.toList (before.length + 1)⟩ := by
  obtain ⟨before,after,rfl,start,stop⟩ := stands
  obtain ⟨first,last⟩ := spot
  have whole : (before ++ String.singleton c ++ after).toList =
      before.toList ++ c :: after.toList := by simp
  have next : before.toList ++ c :: after.toList = (before.toList ++ [c]) ++ after.toList := by simp
  have length : before.toList.length + 1 = (before.toList ++ [c]).length := by simp
  refine ⟨before.toList,after.toList,whole,?_⟩
  rw [whole,Span.mk.injEq]
  constructor
  · rw [textPlace_append,width_toList,← start,UInt32.ofNat_toNat]
  · rw [next,length,textPlace_append,width_append,width_toList,width_cons,width_nil,Nat.add_zero,
      ← String.utf8ByteSize_singleton,← String.utf8ByteSize_append,← stop,UInt32.ofNat_toNat]

omit [Alphabet] in
theorem text_grows {source : String} (fits : source.utf8ByteSize < UInt32.size) :
    Grows (textPlace source.toList) (0 + source.toList.length) := by
  rw [← width_toList] at fits
  rw [Nat.zero_add]
  exact textPlace_grows fits

private theorem exists_foreign {chars : List Char} (foreign : ¬ ∀ c ∈ chars, isLexical c = true) :
    ∃ before c after, chars = before ++ c :: after ∧ (∀ d ∈ before, isLexical d = true) ∧
      isLexical c = false := by
  obtain ⟨whole,lexical,ended⟩ := splits_while isLexical chars
  cases left : chars.dropWhile isLexical with
  | nil =>
    rw [left,List.append_nil] at whole
    exact (foreign (whole ▸ lexical)).elim
  | cons c after =>
    rw [left] at whole ended
    exact ⟨_,c,after,whole,lexical,ended c (by simp)⟩

section
variable {source : String} {pieces : List Piece}
  (laid : Laid (textPlace source.toList) 0 source.toList pieces)
include laid

theorem Laid.tokenize : Scriptlet.tokenize source =
    match gathered (endToken (.ofNat source.utf8ByteSize)) pieces with
    | (_,some error) => .error error
    | (lexemes,none) => .ok lexemes := by
  unfold Scriptlet.tokenize
  exact laid.scan_text ▸ rfl

variable (fits : source.utf8ByteSize < UInt32.size)
include fits

theorem Laid.occupied : ∀ piece ∈ pieces, Occupies source piece.span piece.text := by
  intro piece member
  obtain ⟨before,taken,after,make,whole,formed,rfl⟩ := laid.slice piece member
  rw [formed.span,formed.text,Nat.zero_add]
  exact occupies_of_slice fits whole

theorem Laid.whole (proper : Alphabet.Proper) {c : Char} {spot : Span}
    (stands : Occupies source spot (String.singleton c)) : Covered pieces c spot := by
  obtain ⟨before,after,whole,rfl⟩ := slice_of_occupies stands
  have covered := laid.covers proper (text_grows fits) whole
  simpa using covered

end

/-- A text has the tokens its characters are laid out in, and the end token. -/
theorem tokenize_eq_ok {source : String} {lexemes : List Lexeme} :
    tokenize source = .ok lexemes ↔ ∃ inner : List Lexeme,
      lexemes = inner ++ [endToken (.ofNat source.utf8ByteSize)] ∧
      Laid (textPlace source.toList) 0 source.toList (inner.map .ok) := by
  constructor
  · intro read
    obtain ⟨pieces,laid⟩ := exists_laid (textPlace source.toList) 0 source.toList
    rw [laid.tokenize] at read
    split at read
    · cases read
    · next found sound =>
      obtain rfl := Except.ok.inj read
      obtain ⟨inner,rfl,same⟩ := gathered_ok sound
      exact ⟨inner,same,laid⟩
  · rintro ⟨inner,rfl,laid⟩
    rw [laid.tokenize,gathered_sound]

private theorem Laid.lossless (proper : Alphabet.Proper) {source : String}
    (fits : source.utf8ByteSize < UInt32.size) {lexemes : List Lexeme}
    (laid : Laid (textPlace source.toList) 0 source.toList (lexemes.map .ok)) :
    Lossless source lexemes := by
  have grows := text_grows fits
  have ordered := List.pairwise_map.mp (laid.ordered grows)
  have piece {lexeme : Lexeme} (member : lexeme ∈ lexemes) :
      (Except.ok lexeme : Piece) ∈ lexemes.map Except.ok := List.mem_map_of_mem member
  have formed {lexeme : Lexeme} (member : lexeme ∈ lexemes) : ∃ taken rest make span,
      Forms taken rest make ∧ make span = .ok lexeme := by
    obtain ⟨_,taken,rest,make,_,formed,made⟩ := laid.slice _ (piece member)
    exact ⟨taken,rest,make,_,formed,made.symm⟩
  constructor
  · intro lexeme member
    exact laid.ne_eof (piece member)
  · intro lexeme member
    exact (laid.bounds grows _ (piece member)).2.1
  · exact ordered.imp fun both => both.1
  · intro lexeme member
    exact laid.occupied fits _ (piece member)
  · intro c spot stands
    exact laid.whole fits proper stands
  · exact ordered.imp fun both touches => both.2 touches _ _ rfl rfl
  · intro lexeme member letters
    obtain ⟨taken,rest,make,span,formed,made⟩ := formed member
    rw [formed.word_of_letters proper made letters,wordToken_literal]
    exact wordToken_isWordToken _

end Cursor
open Cursor

/-- If all characters are lexical, the tokens are all of the text but its blanks; otherwise the
first that is not is reported. Read on past every fault, tokens and faults are all of the text
but its blanks, and behind them the end token comes again and again. A text whose positions do not
wrap around is meant. -/
theorem lexing_lossless [Alphabet] (proper : Alphabet.Proper) (source : String)
    (fits : source.utf8ByteSize < UInt32.size) : ∃ final : Span, final.Marks source "" ∧
    ((∀ c ∈ source.toList, isLexical c = true) → ∃ lexemes,
      tokenize source = .ok (lexemes ++ [⟨.eof,final⟩]) ∧ Lossless source lexemes) ∧
    ((¬ ∀ c ∈ source.toList, isLexical c = true) → ∃ before c after span,
      source = before ++ String.singleton c ++ after ∧
      (∀ d ∈ before.toList, isLexical d = true) ∧ isLexical c = false ∧
      tokenize source = .error ⟨c,span⟩ ∧ span.Marks before (String.singleton c)) ∧
    ∃ pieces : List Piece,
      (∀ lexeme, .ok lexeme ∈ pieces → lexeme.token ≠ .eof) ∧
      (∀ piece ∈ pieces, Occupies source piece.span piece.text) ∧
      (∀ c spot, Occupies source spot (String.singleton c) → Covered pieces c spot) ∧
      ∀ count, (Cursor.ofText source).items count =
        (pieces ++ List.replicate count (Except.ok (⟨.eof,final⟩ : Lexeme))).take count := by
  obtain ⟨pieces,laid⟩ := exists_laid (textPlace source.toList) 0 source.toList
  refine ⟨_,Span.marks_end fits,?_,?_,pieces,?_,laid.occupied fits,
    fun c spot => laid.whole fits proper,?_⟩
  · intro lexical
    obtain ⟨lexemes,rfl⟩ := laid.sound lexical
    refine ⟨lexemes,?_,laid.lossless proper fits⟩
    rw [laid.tokenize,gathered_sound]
    rfl
  · intro foreign
    obtain ⟨before,c,after,whole,lexical,alien⟩ := exists_foreign foreign
    obtain ⟨lexemes,more,rfl⟩ := laid.fault whole lexical alien
    have parts : source = String.ofList before ++ String.singleton c ++ String.ofList after := by
      rw [← String.toList_inj,whole]
      simp
    have reach : (String.ofList before ++ String.singleton c).utf8ByteSize < UInt32.size := by
      rw [parts,String.utf8ByteSize_append] at fits
      omega
    have start : textPlace source.toList before.length =
        .ofNat (String.ofList before).utf8ByteSize := by
      rw [whole,textPlace_append,width]
    have stop : textPlace source.toList (before.length + 1) =
        .ofNat (String.ofList before ++ String.singleton c).utf8ByteSize := by
      have next : source.toList = (before ++ [c]) ++ after := by simp [whole]
      have length : before.length + 1 = (before ++ [c]).length := by simp
      rw [next,length,textPlace_append,width,String.ofList_append,String.singleton_eq_ofList]
    refine ⟨String.ofList before,c,String.ofList after,_,parts,by simpa using lexical,alien,?_,
      Span.marks_ofNat reach⟩
    rw [laid.tokenize,gathered_fault,Nat.zero_add,start,stop]
  · intro lexeme member
    exact laid.ne_eof member
  · intro count
    rw [laid.items (ofText_shows source),Nat.zero_add,textPlace_end]
    rfl

theorem unicode_proper : @Alphabet.Proper unicode := by
  intro c kind
  change Text.isAlphabetic c = false
  simp only [Bool.or_eq_true] at kind
  rcases kind with (skipped | single) | digit
  · simp only [isBlank,Bool.or_eq_true,decide_eq_true_eq] at skipped
    rcases skipped with ((rfl | rfl) | rfl) | rfl <;> rfl
  · unfold Token.symbol? at single
    split at single
    case h_17 => cases single
    all_goals rfl
  · obtain ⟨least,most⟩ : 48 ≤ c.toNat ∧ c.toNat ≤ 57 := by
      simpa [Char.isDigit,UInt32.le_iff_toNat_le] using digit
    have ascii : c.toNat < 0x80 := by omega
    have ranges : Text.isAlphabetic c = (decide ('A'.val ≤ c.val ∧ c.val ≤ 'Z'.val) ||
        decide ('a'.val ≤ c.val) && decide (c.val ≤ 'z'.val)) := by
      rw [Text.isAlphabetic,if_pos ascii]
      rfl
    simp [ranges,UInt32.le_iff_toNat_le]
    omega

/-- A keyword, a word of two alphabets, a number that touches no other, and blanks. -/
theorem lexing_declaration :
    @Alphabet.Proper unicode ∧ "let né = 25;".utf8ByteSize < UInt32.size ∧
    (∀ c ∈ "let né = 25;".toList, isLexical c = true) ∧
    ∃ lexemes final, tokenize "let né = 25;" = .ok (lexemes ++ [⟨.eof,final⟩]) ∧
      final.Marks "let né = 25;" "" ∧ Lossless "let né = 25;" lexemes := by
  have all : "let né = 25;".toList.all isLexical = true := by decide +kernel
  have lexical := List.all_eq_true.mp all
  have fits : "let né = 25;".utf8ByteSize < UInt32.size := by decide
  obtain ⟨final,ends,read,_⟩ := lexing_lossless unicode_proper "let né = 25;" fits
  obtain ⟨lexemes,same,lossless⟩ := read lexical
  exact ⟨unicode_proper,fits,lexical,lexemes,final,same,ends,lossless⟩

/-! A text behind so many blanks that positions wrap around. -/

def blanks (count : Nat) : String := String.ofList (List.replicate count ' ')

@[simp] theorem blanks_size (count : Nat) : (blanks count).utf8ByteSize = count := by
  change width (List.replicate count ' ') = count
  induction count with
  | zero => rfl
  | succ count ih => rw [List.replicate_succ,width_cons,ih,Nat.add_comm]; rfl

theorem blanks_blank (count : Nat) : ∀ c ∈ (blanks count).toList, isBlank c = true := by
  intro c member
  rw [blanks,String.toList_ofList] at member
  obtain ⟨_,rfl⟩ := List.mem_replicate.mp member
  rfl

theorem tokenize_behind {text : String} {lexemes : List Lexeme}
    (read : tokenize text = .ok lexemes) (count : Nat) :
    tokenize (blanks count ++ text) = .ok (lexemes.map (Lexeme.shift (.ofNat count))) := by
  obtain ⟨inner,rfl,laid⟩ := tokenize_eq_ok.mp read
  refine tokenize_eq_ok.mpr ⟨inner.map (Lexeme.shift (.ofNat count)),?_,?_⟩
  · rw [List.map_append,List.map_singleton,String.utf8ByteSize_append,blanks_size,
      Nat.add_comm count,UInt32.ofNat_add text.utf8ByteSize]
    rfl
  · rw [String.toList_append]
    refine .blanks (blanks_blank count) ?_
    have placed (ahead : Nat) (_ : ahead ≤ text.toList.length) :
        textPlace ((blanks count).toList ++ text.toList)
          (0 + (blanks count).toList.length + ahead) =
          textPlace text.toList (0 + ahead) + .ofNat count := by
      rw [Nat.zero_add,Nat.zero_add,textPlace_behind,width_toList,blanks_size]
    have moved := laid.shift placed
    rw [List.map_map] at moved ⊢
    exact moved

/-- A name at the last position there is stops at 0, and what follows starts there. -/
theorem far_name_misplaced :
    let source := blanks 4294967295 ++ "a;"
    let lexemes : List Lexeme := [⟨.ident "a",⟨4294967295,0⟩⟩,⟨.semicolon,⟨0,1⟩⟩]
    (∀ c ∈ source.toList, isLexical c = true) ∧
    tokenize source = .ok (lexemes ++ [⟨.eof,⟨1,1⟩⟩]) ∧
    ¬ (⟨1,1⟩ : Span).Marks source "" ∧ ¬ Lossless source lexemes := by
  intro source lexemes
  have read : tokenize "a;" = .ok [⟨.ident "a",⟨0,1⟩⟩,⟨.semicolon,⟨1,2⟩⟩,⟨.eof,⟨2,2⟩⟩] := by
    rw [tokenize,Cursor.ofText_eq]
    decide +kernel
  refine ⟨?_,tokenize_behind read 4294967295,?_,?_⟩
  · intro c member
    rw [String.toList_append,List.mem_append] at member
    rcases member with front | inner
    · rw [isLexical,blanks_blank _ c front]
      rfl
    · exact List.all_eq_true.mp (by decide +kernel : "a;".toList.all isLexical = true) c inner
  · rintro ⟨start,_⟩
    rw [String.utf8ByteSize_append,blanks_size] at start
    exact absurd start (by decide)
  · intro lossless
    exact absurd (lossless.filled ⟨.ident "a",⟨4294967295,0⟩⟩ (by simp [lexemes])) (by decide)

end Scriptlet
