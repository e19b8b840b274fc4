import Mathlib.Data.List.Chain
import Scriptlet.Proofs.Lexer.Lossless

/-! Tokens written as a text. Blanks may stand before each token and behind the last one, and do
stand between two tokens that would merge. Reading such a text gives the tokens back, each exactly
where its text was put. -/
namespace Scriptlet
open Cursor

namespace Token

/-- A token that a text can have: a number is a numeral, and an identifier is a word but no
keyword. -/
def Writable : Token → Prop
  | number digits => IsNumeral digits.toList
  | ident name => name ≠ "" ∧ (∀ c ∈ name.toList, Text.isAlphabetic c = true) ∧
      name ≠ "let" ∧ name ≠ "const"
  | eof => False
  | _ => True

end Token

structure Placed where
  blanks : String
  token : Token

def written : List Placed → String → String
  | [],tail => tail
  | word :: rest,tail => word.blanks ++ word.token.literal ++ written rest tail

/-- The tokens can be told apart in the text. -/
structure Readable (words : List Placed) (tail : String) : Prop where
  writable : ∀ word ∈ words, word.token.Writable
  blanks : ∀ word ∈ words, ∀ c ∈ word.blanks.toList, isBlank c = true
  tail : ∀ c ∈ tail.toList, isBlank c = true
  apart : words.IsChain fun first second => first.token.Merge second.token → second.blanks ≠ ""

def writtenLexemes (offset : UInt32) : List Placed → List Lexeme
  | [] => []
  | word :: rest =>
    let start := offset + .ofNat word.blanks.utf8ByteSize
    let stop := start + .ofNat word.token.literal.utf8ByteSize
    ⟨word.token,⟨start,stop⟩⟩ :: writtenLexemes stop rest

/-! The characters of a token. -/

section
variable {c : Char} {token : Token}

private theorem letter_of_digit (digit : c.isDigit = true) : Text.isAlphabetic c = false :=
  unicode_proper c (by simp [digit])

private theorem plain_of_letter (letter : Text.isAlphabetic c = true) :
    isBlank c = false ∧ Token.symbol? c = none ∧ c.isDigit = false := by
  cases kind : isBlank c || (Token.symbol? c).isSome || c.isDigit with
  | false => simpa [and_assoc] using kind
  | true =>
    have other : Text.isAlphabetic c = false := unicode_proper c kind
    rw [letter] at other
    cases other

private theorem digit_of_symbol (single : Token.symbol? c = some token) : c.isDigit = false := by
  cases digit : c.isDigit with
  | false => rfl
  | true =>
    rw [symbol_of_digit digit] at single
    cases single

private theorem letter_of_symbol (single : Token.symbol? c = some token) :
    Text.isAlphabetic c = false := unicode_proper c (by simp [single])

private theorem forms_word {letters : List Char} (some : letters ≠ [])
    (all : ∀ c ∈ letters, Text.isAlphabetic c = true) {rest : List Char}
    (ends : ∀ c ∈ rest.head?, Text.isAlphabetic c = false) :
    Forms letters rest fun span => .ok ⟨wordToken (String.ofList letters),span⟩ := by
  obtain ⟨first,others,rfl⟩ := List.exists_cons_of_ne_nil some
  obtain ⟨solid,single,digit⟩ := plain_of_letter (all first (by simp))
  exact .word solid single digit all ends

namespace Token.Writable

theorem symbol (writable : token.Writable) (number : token.isNumeral = false)
    (word : token.isWord = false) :
    ∃ c, token.literal.toList = [c] ∧ Token.symbol? c = some token := by
  cases token with
  | number | ident | letWord | constWord => simp [isNumeral,isWord] at number word
  | eof => exact writable.elim
  | operator sign => cases sign <;> exact ⟨_,rfl,rfl⟩
  | _ => exact ⟨_,rfl,rfl⟩

theorem letters (writable : token.Writable) (word : token.isWord = true) :
    token.literal.toList ≠ [] ∧ (∀ c ∈ token.literal.toList, Text.isAlphabetic c = true) ∧
      wordToken token.literal = token := by
  cases token with
  | ident name =>
    obtain ⟨some,letters,variableName,constantName⟩ := writable
    refine ⟨by simpa [literal] using some,letters,?_⟩
    simp [wordToken,keyword?,literal,variableName,constantName]
  | letWord => exact ⟨by decide,List.all_eq_true.mp (by decide),rfl⟩
  | constWord => exact ⟨by decide,List.all_eq_true.mp (by decide),rfl⟩
  | _ => simp [isWord] at word

theorem digits (writable : token.Writable) (number : token.isNumeral = true) :
    IsNumeral token.literal.toList ∧ token = .number token.literal := by
  cases token with
  | number digits => exact ⟨writable,rfl⟩
  | _ => simp [isNumeral] at number

/-- A token that is followed by nothing that would make it longer is one piece. -/
theorem forms (writable : token.Writable) {rest : List Char}
    (number : token.isNumeral = true → ∀ c ∈ rest.head?, c.isDigit = false)
    (word : token.isWord = true → ∀ c ∈ rest.head?, Text.isAlphabetic c = false) :
    Forms token.literal.toList rest fun span => .ok ⟨token,span⟩ := by
  cases numeral : token.isNumeral with
  | true =>
    obtain ⟨digits,same⟩ := writable.digits numeral
    have formed := Forms.numeral digits (number numeral)
    rwa [String.ofList_toList,← same] at formed
  | false =>
    cases letters : token.isWord with
    | true =>
      obtain ⟨some,all,same⟩ := writable.letters letters
      have formed := forms_word some all (word letters)
      rwa [String.ofList_toList,same] at formed
    | false =>
      obtain ⟨c,only,single⟩ := writable.symbol numeral letters
      rw [only]
      exact .symbol single

theorem lead (writable : token.Writable) (first : c ∈ token.literal.toList.head?) :
    (token.isNumeral = false → c.isDigit = false) ∧
      (token.isWord = false → Text.isAlphabetic c = false) := by
  have member : c ∈ token.literal.toList := List.mem_of_mem_head? first
  cases numeral : token.isNumeral with
  | true => exact ⟨nofun,fun _ => letter_of_digit ((writable.digits numeral).1.2 c member)⟩
  | false =>
    cases letters : token.isWord with
    | true => exact ⟨fun _ => (plain_of_letter ((writable.letters letters).2.1 c member)).2.2,nofun⟩
    | false =>
      obtain ⟨d,only,single⟩ := writable.symbol numeral letters
      obtain rfl : d = c := by simpa [only] using first
      exact ⟨fun _ => digit_of_symbol single,fun _ => letter_of_symbol single⟩

private theorem literal_ne_empty (writable : token.Writable) : token.literal.toList ≠ [] := by
  have formed : Forms token.literal.toList [] fun span => .ok ⟨token,span⟩ :=
    writable.forms (by simp) (by simp)
  exact formed.ne_nil

end Token.Writable

end

/-! The text. -/

section
variable {words : List Placed} {word : Placed} {tail : String}

theorem Readable.rest (readable : Readable (word :: words) tail) : Readable words tail where
  writable other member := readable.writable other (List.mem_cons_of_mem _ member)
  blanks other member := readable.blanks other (List.mem_cons_of_mem _ member)
  tail := readable.tail
  apart := readable.apart.of_cons

theorem Readable.head (readable : Readable words tail) {c : Char}
    (first : c ∈ (written words tail).toList.head?) : isBlank c = true ∨
      ∃ word rest, words = word :: rest ∧ word.blanks = "" ∧
        c ∈ word.token.literal.toList.head? := by
  cases words with
  | nil => exact .inl (readable.tail c (List.mem_of_mem_head? first))
  | cons word rest =>
    rw [written,String.toList_append,String.toList_append,List.append_assoc,List.head?_append]
      at first
    cases front : word.blanks.toList with
    | cons d others =>
      obtain rfl : d = c := by simpa [front] using first
      exact .inl (readable.blanks word (by simp) d (by simp [front]))
    | nil =>
      have some := (readable.writable word (by simp)).literal_ne_empty
      obtain ⟨d,others,literal⟩ := List.exists_cons_of_ne_nil some
      refine .inr ⟨word,rest,rfl,by simpa using front,?_⟩
      simpa [front,literal] using first

private theorem Readable.forms (readable : Readable (word :: words) tail) :
    Forms word.token.literal.toList (written words tail).toList
      fun span => .ok ⟨word.token,span⟩ := by
  have merges {second : Placed} {rest : List Placed} (next : words = second :: rest)
      (touching : second.blanks = "") : ¬ word.token.Merge second.token := by
    subst next
    intro merge
    exact (List.isChain_cons_cons.mp readable.apart).1 merge touching
  apply (readable.writable word (by simp)).forms
  · intro number c first
    rcases readable.rest.head first with skipped | ⟨second,rest,rfl,touching,lead⟩
    · cases digit : c.isDigit with
      | false => rfl
      | true => simp [blank_of_digit digit] at skipped
    · refine ((readable.writable second (by simp)).lead lead).1 ?_
      exact Bool.eq_false_iff.mpr fun other => merges rfl touching (.inl ⟨number,other⟩)
  · intro letters c first
    rcases readable.rest.head first with skipped | ⟨second,rest,rfl,touching,lead⟩
    · exact unicode_proper c (by simp [skipped])
    · refine ((readable.writable second (by simp)).lead lead).2 ?_
      exact Bool.eq_false_iff.mpr fun other => merges rfl touching (.inr ⟨letters,other⟩)

private theorem textPlace_text {text before after : String} (whole : text = before ++ after) :
    textPlace text.toList before.toList.length = .ofNat before.utf8ByteSize := by
  rw [whole,String.toList_append,textPlace_append,width_toList]

/-- Behind any text, the written tokens are laid out as they were put. -/
theorem Readable.laid (readable : Readable words tail) (front : String) :
    Laid (textPlace (front ++ written words tail).toList) front.toList.length
      (written words tail).toList ((writtenLexemes (.ofNat front.utf8ByteSize) words).map .ok) := by
  induction words generalizing front with
  | nil =>
    have skipped : Laid (textPlace (front ++ tail).toList) front.toList.length
        (tail.toList ++ []) [] := Laid.blanks readable.tail .done
    rwa [List.append_nil] at skipped
  | cons word words ih =>
    have whole : front ++ written (word :: words) tail =
        front ++ word.blanks ++ word.token.literal ++ written words tail := by
      simp only [written,String.append_assoc]
    have around : front ++ written (word :: words) tail =
        front ++ word.blanks ++ (word.token.literal ++ written words tail) := by
      simp only [written,String.append_assoc]
    have start := textPlace_text around
    have stop := textPlace_text whole
    have later := ih readable.rest (front ++ word.blanks ++ word.token.literal)
    rw [← whole] at later
    simp only [String.toList_append,List.length_append,String.utf8ByteSize_append,UInt32.ofNat_add]
      at start stop later ⊢
    have placed := Laid.piece readable.forms later
    rw [start,stop] at placed
    simpa [written,writtenLexemes] using Laid.blanks (readable.blanks word (by simp)) placed

private theorem writtenLexemes_token (offset : UInt32) (words : List Placed) :
    (writtenLexemes offset words).map (·.token) = words.map (·.token) := by
  induction words generalizing offset with
  | nil => rfl
  | cons word words ih => simp [writtenLexemes,ih]

private theorem writtenLexemes_span (offset : UInt32) (front back : List Placed) (word : Placed) :
    (writtenLexemes offset (front ++ word :: back))[front.length]? =
      some ⟨word.token,⟨offset + .ofNat (written front word.blanks).utf8ByteSize,
        offset + .ofNat (written front word.blanks ++ word.token.literal).utf8ByteSize⟩⟩ := by
  induction front generalizing offset with
  | nil => simp [writtenLexemes,written,UInt32.ofNat_add,UInt32.add_assoc]
  | cons first front ih =>
    simp [writtenLexemes,written,ih,UInt32.ofNat_add,UInt32.add_assoc]

private theorem written_size_le (front back : List Placed) (word : Placed) (tail : String) :
    (written front word.blanks ++ word.token.literal).utf8ByteSize ≤
      (written (front ++ word :: back) tail).utf8ByteSize := by
  induction front with
  | nil => simp [written]
  | cons first front ih =>
    simp only [written,List.cons_append,String.utf8ByteSize_append] at ih ⊢
    omega

end

/-- Tokens written with blanks between them are read back, followed by the end token. The span of
each is the range of bytes its text was put at. A text whose positions do not wrap around is
meant. -/
theorem written_tokens_read_back {words : List Placed} {tail : String}
    (readable : Readable words tail) (fits : (written words tail).utf8ByteSize < UInt32.size) :
    ∃ lexemes final, tokenize (written words tail) = .ok (lexemes ++ [⟨.eof,final⟩]) ∧
      final.Marks (written words tail) "" ∧ lexemes.map (·.token) = words.map (·.token) ∧
      ∀ front word back, words = front ++ word :: back → ∃ span,
        lexemes[front.length]? = some ⟨word.token,span⟩ ∧
          span.Marks (written front word.blanks) word.token.literal := by
  have laid := readable.laid ""
  simp only [String.empty_append] at laid
  refine ⟨writtenLexemes 0 words,_,tokenize_eq_ok.mpr ⟨_,rfl,laid⟩,Span.marks_end fits,
    writtenLexemes_token 0 words,?_⟩
  rintro front word back rfl
  have placed := writtenLexemes_span 0 front back word
  rw [UInt32.zero_add,UInt32.zero_add] at placed
  have within := written_size_le front back word tail
  exact ⟨_,placed,Span.marks_ofNat (Nat.lt_of_le_of_lt within fits)⟩

/-- A keyword and a name with blanks between them, and a number that touches a word of another
alphabet. -/
theorem written_declaration_read_back :
    let words : List Placed := [⟨"\t",.letWord⟩,⟨" \n",.ident "né"⟩,⟨"",.equals⟩,⟨"",.number "25"⟩,
      ⟨"",.ident "ж"⟩,⟨"",.operator .minus⟩,⟨"",.operator .minus⟩]
    let text := "\tlet \nné=25ж--\r"
    Readable words "\r" ∧ written words "\r" = text ∧ text.utf8ByteSize < UInt32.size ∧
      ∃ lexemes final, tokenize text = .ok (lexemes ++ [⟨.eof,final⟩]) ∧ final.Marks text "" ∧
        ∃ span, lexemes[4]? = some ⟨.ident "ж",span⟩ ∧ span.Marks "\tlet \nné=25" "ж" := by
  intro words text
  have readable : Readable words "\r" := by
    refine ⟨?_,?_,?_,?_⟩
    · have name : (Token.ident "né").Writable :=
        ⟨by decide,List.all_eq_true.mp (by decide +kernel),by decide,by decide⟩
      have number : (Token.number "25").Writable := ⟨by decide,List.all_eq_true.mp (by decide)⟩
      have other : (Token.ident "ж").Writable :=
        ⟨by decide,List.all_eq_true.mp (by decide +kernel),by decide,by decide⟩
      simp only [words,List.forall_mem_cons]
      exact ⟨trivial,name,trivial,number,other,trivial,trivial,nofun⟩
    · have blanks : (words.all fun word => word.blanks.toList.all isBlank) = true := by decide
      intro word member
      exact List.all_eq_true.mp (List.all_eq_true.mp blanks word member)
    · exact List.all_eq_true.mp (by decide)
    · simp [words,Token.Merge,Token.isNumeral,Token.isWord]
  have fits : text.utf8ByteSize < UInt32.size := by decide
  obtain ⟨lexemes,final,read,ends,_,spans⟩ := written_tokens_read_back readable fits
  exact ⟨readable,rfl,fits,lexemes,final,read,ends,
    spans (words.take 4) ⟨"",.ident "ж"⟩ (words.drop 5) rfl⟩

/-- Behind so many blanks that positions wrap around, a name stops in front of its start. -/
theorem far_word_misplaced :
    let words : List Placed := [⟨blanks 4294967295,.ident "a"⟩,⟨"",.semicolon⟩]
    Readable words "" ∧ tokenize (written words "") =
      .ok [⟨.ident "a",⟨4294967295,0⟩⟩,⟨.semicolon,⟨0,1⟩⟩,⟨.eof,⟨1,1⟩⟩] ∧
    ¬ (⟨4294967295,0⟩ : Span).Marks (blanks 4294967295) "a" := by
  intro words
  have name : (Token.ident "a").Writable :=
    ⟨by decide,List.all_eq_true.mp (by decide +kernel),by decide,by decide⟩
  have read : tokenize "a;" = .ok [⟨.ident "a",⟨0,1⟩⟩,⟨.semicolon,⟨1,2⟩⟩,⟨.eof,⟨2,2⟩⟩] := by
    rw [tokenize,Cursor.ofText_eq]
    decide +kernel
  have text : written words "" = blanks 4294967295 ++ "a;" := by
    simp only [words,written,String.append_assoc]
    rfl
  refine ⟨⟨?_,?_,nofun,?_⟩,?_,?_⟩
  · simp only [words,List.forall_mem_cons]
    exact ⟨name,trivial,nofun⟩
  · simp only [words,List.forall_mem_cons]
    exact ⟨blanks_blank _,nofun,nofun⟩
  · simp [words,Token.Merge,Token.isNumeral,Token.isWord]
  · rw [text]
    exact tokenize_behind read 4294967295
  · rintro ⟨_,stop⟩
    rw [String.utf8ByteSize_append,blanks_size] at stop
    exact absurd stop (by decide)

end Scriptlet
