import Scriptlet.Proofs.Lexer.Scan

/-! Which characters spell which tokens. Characters that spell tokens are scanned as these
tokens, and the tokens of a scan are spelt by the characters they were made from. -/
namespace Scriptlet

def IsWord (letters : List Char) : Prop :=
  (∀ c ∈ letters, Text.isAlphabetic c = true) ∧
    ∃ first others, letters = first :: others ∧ Cursor.isBlank first = false ∧
      Token.symbol? first = none ∧ first.isDigit = false

theorem isWord_of_all {first : Char} {others : List Char}
    (letters : (first :: others).all Text.isAlphabetic = true)
    (solid : Cursor.isBlank first = false) (single : Token.symbol? first = none)
    (digit : first.isDigit = false) : IsWord (first :: others) :=
  ⟨List.all_eq_true.mp letters,first,others,rfl,solid,single,digit⟩

def IsNumeral (digits : List Char) : Prop :=
  digits ≠ [] ∧ ∀ c ∈ digits, c.isDigit = true

/-- The characters spell the tokens: blanks count for nothing, and words and numerals end where
no more letters or digits follow. -/
inductive Spells : List Char → List Token → Prop where
  | done : Spells [] []
  | blank {c chars tokens} (skipped : Cursor.isBlank c = true) (rest : Spells chars tokens) :
      Spells (c :: chars) tokens
  | symbol {c chars token tokens} (single : Token.symbol? c = some token)
      (rest : Spells chars tokens) : Spells (c :: chars) (token :: tokens)
  | numeral {digits chars tokens} (read : IsNumeral digits)
      (apart : ∀ c ∈ chars.head?, c.isDigit = false) (rest : Spells chars tokens) :
      Spells (digits ++ chars) (.number (String.ofList digits) :: tokens)
  | word {letters chars tokens} (read : IsWord letters)
      (apart : ∀ c ∈ chars.head?, Text.isAlphabetic c = false) (rest : Spells chars tokens) :
      Spells (letters ++ chars) (Cursor.wordToken (String.ofList letters) :: tokens)

def Spelt : Token → Prop
  | .ident name => IsWord name.toList ∧ Token.keyword? name = none
  | .number digits => IsNumeral digits.toList
  | _ => True

namespace Cursor

variable {cursor : Cursor} {start : UInt32} {c : Char} {others : List (UInt32 × Char)}

theorem blank_of_symbol {token : Token} (single : Token.symbol? c = some token) :
    isBlank c = false := by
  unfold Token.symbol? at single
  split at single <;> simp_all <;> decide

theorem symbol_of_digit (digit : c.isDigit = true) : Token.symbol? c = none := by
  unfold Token.symbol?
  split <;> simp_all

theorem blank_of_digit (digit : c.isDigit = true) : isBlank c = false := by
  unfold isBlank
  simp only [Bool.or_eq_false_iff,decide_eq_false_iff_not]
  refine ⟨⟨⟨?_,?_⟩,?_⟩,?_⟩ <;> intro same <;> exact absurd (same ▸ digit) (by decide)

/-! One item, by its first character. -/

theorem skipBlanks (left : cursor.rest = (start,c) :: others) (solid : isBlank c = false) :
    cursor.skipWhile isBlank = cursor := by
  obtain ⟨rest,final⟩ := cursor
  subst left
  simp [skipWhile,solid]

theorem next_blank [Alphabet] (left : cursor.rest = (start,c) :: others)
    (skipped : isBlank c = true) :
    cursor.next = (⟨others,cursor.final⟩ : Cursor).next := by
  obtain ⟨rest,final⟩ := cursor
  subst left
  simp [next,skipWhile,skipped]

private theorem next_symbol {token : Token} (left : cursor.rest = (start,c) :: others)
    (single : Token.symbol? c = some token) :
    ∃ span, cursor.next = (.ok ⟨token,span⟩,⟨others,cursor.final⟩) := by
  unfold next
  rw [skipBlanks left (blank_of_symbol single)]
  simp only [left,single]
  exact ⟨_,rfl⟩

private theorem next_digit (left : cursor.rest = (start,c) :: others) (digit : c.isDigit = true) :
    ∃ span, cursor.next =
      (.ok ⟨.number (cursor.run Char.isDigit),span⟩,cursor.skipWhile Char.isDigit) := by
  unfold next
  rw [skipBlanks left (blank_of_digit digit)]
  simp only [left,symbol_of_digit digit,digit,if_true]
  exact ⟨_,rfl⟩

private theorem next_letter (left : cursor.rest = (start,c) :: others) (solid : isBlank c = false)
    (single : Token.symbol? c = none) (digit : c.isDigit = false)
    (letter : Text.isAlphabetic c = true) : ∃ span, cursor.next =
      (.ok ⟨wordToken (cursor.run Text.isAlphabetic),span⟩,
        cursor.skipWhile Text.isAlphabetic) := by
  unfold next
  rw [skipBlanks left solid]
  simp only [left,single,digit,Bool.false_eq_true,if_false,Alphabet.letter,letter,if_true]
  exact ⟨_,rfl⟩

theorem run_append {keep : Char → Bool} {taken left : List (UInt32 × Char)}
    (parts : cursor.rest = taken ++ left) (kept : ∀ c ∈ taken.map (·.2), keep c = true)
    (apart : ∀ c ∈ (left.map (·.2)).head?, keep c = false) :
    cursor.run keep = String.ofList (taken.map (·.2)) ∧
      cursor.skipWhile keep = ⟨left,cursor.final⟩ := by
  obtain ⟨rest,final⟩ := cursor
  subst parts
  have all : ∀ item ∈ taken, keep item.2 = true := by
    intro item member
    exact kept item.2 (List.mem_map_of_mem member)
  have stops : (left.takeWhile fun item => keep item.2) = [] ∧
      (left.dropWhile fun item => keep item.2) = left := by
    cases left with
    | nil => exact ⟨rfl,rfl⟩
    | cons item more =>
      have ended : keep item.2 = false := apart item.2 (by simp)
      simp [ended]
  simp only [run,skipWhile,List.takeWhile_append_of_pos all,List.dropWhile_append_of_pos all,
    stops,List.append_nil]
  exact ⟨trivial,trivial⟩

def Scans (cursor : Cursor) (tokens : List Token) : Prop :=
  ∃ lexemes span, cursor.scan = (lexemes ++ [⟨.eof,span⟩],none) ∧ lexemes.map (·.token) = tokens

private theorem Scans.of_next {after : Cursor} {lexeme : Lexeme} {tokens : List Token}
    (item : cursor.next = (.ok lexeme,after)) (inner : lexeme.token ≠ .eof)
    (rest : after.Scans tokens) : cursor.Scans (lexeme.token :: tokens) := by
  obtain ⟨lexemes,span,scanned,same⟩ := rest
  refine ⟨lexeme :: lexemes,span,?_,by simp [same]⟩
  rw [scan_eq,item]
  simp [inner,scanned]

/-- What a text spells is what is scanned from it. -/
theorem scans_of_spells {chars : List Char} {tokens : List Token} (spelt : Spells chars tokens)
    (held : cursor.rest.map (·.2) = chars) : cursor.Scans tokens := by
  induction spelt generalizing cursor with
  | done =>
    have empty : (cursor.skipWhile isBlank).rest = [] := by
      simp [skipWhile,List.map_eq_nil_iff.mp held]
    refine ⟨[],⟨cursor.final,cursor.final⟩,?_,rfl⟩
    rw [scan_eq,next_done empty]
    rfl
  | blank skipped _ ih =>
    obtain ⟨item,others,left,rfl,rfl⟩ := List.map_eq_cons_iff.mp held
    obtain ⟨lexemes,span,scanned,same⟩ := @ih ⟨others,cursor.final⟩ rfl
    refine ⟨lexemes,span,?_,same⟩
    rw [scan_eq,next_blank left skipped,← scan_eq,scanned]
  | symbol single _ ih =>
    obtain ⟨item,others,left,rfl,rfl⟩ := List.map_eq_cons_iff.mp held
    obtain ⟨span,found⟩ := next_symbol left single
    exact .of_next found (symbol_ne_eof single) (ih rfl)
  | numeral read apart _ ih =>
    obtain ⟨taken,others,parts,rfl,rfl⟩ := List.map_eq_append_iff.mp held
    obtain ⟨some,digits⟩ := read
    obtain ⟨run,skipped⟩ := run_append parts digits apart
    obtain ⟨first,more,rfl⟩ : ∃ first more, taken = first :: more :=
      List.exists_cons_of_ne_nil (by simpa using some)
    obtain ⟨span,found⟩ := next_digit parts (digits first.2 (by simp))
    rw [run,skipped] at found
    exact .of_next found (by simp) (ih rfl)
  | word read apart _ ih =>
    obtain ⟨taken,others,parts,rfl,rfl⟩ := List.map_eq_append_iff.mp held
    obtain ⟨letters,c,rest,same,solid,single,digit⟩ := read
    obtain ⟨run,skipped⟩ := run_append parts letters apart
    obtain ⟨first,more,rfl,rfl,rfl⟩ := List.map_eq_cons_iff.mp same
    obtain ⟨span,found⟩ := next_letter parts solid single digit (letters first.2 (by simp))
    rw [run,skipped] at found
    exact .of_next found (wordToken_ne_eof _) (ih rfl)

theorem positions_chars (offset : UInt32) (chars : List Char) :
    (positions offset chars).map (·.2) = chars := by
  induction chars generalizing offset with
  | nil => rfl
  | cons c rest ih => simp [positions,ih]

theorem ofText_chars (source : String) :
    (ofText source).rest.map (·.2) = source.toList := by
  rw [ofText_eq]
  exact positions_chars 0 source.toList

/-! The tokens of a scan. -/

private theorem run_all (keep : Char → Bool) : ∀ c ∈ (cursor.run keep).toList, keep c = true := by
  intro c member
  simp only [run,String.toList_ofList,List.mem_map] at member
  obtain ⟨item,taken,rfl⟩ := member
  exact List.all_eq_true.mp List.all_takeWhile item taken

private theorem run_first {keep : Char → Bool} (left : cursor.rest = (start,c) :: others)
    (kept : keep c = true) : ∃ more, (cursor.run keep).toList = c :: more := by
  simp only [run,String.toList_ofList,left]
  rw [List.takeWhile_cons_of_pos (by exact kept),List.map_cons]
  exact ⟨_,rfl⟩

private theorem blank_skipped (left : (cursor.skipWhile isBlank).rest = (start,c) :: others) :
    isBlank c = false := by
  have ended := List.head?_dropWhile_not (fun item : UInt32 × Char => isBlank item.2) cursor.rest
  simp only [skipWhile] at left
  simpa [left] using ended

private theorem wordToken_spelt {word : String} (read : IsWord word.toList) :
    Spelt (wordToken word) := by
  unfold wordToken
  cases reserved : Token.keyword? word with
  | none => exact ⟨read,reserved⟩
  | some token =>
    unfold Token.keyword? at reserved
    split at reserved
    · obtain rfl := Option.some.inj reserved
      trivial
    · split at reserved
      · obtain rfl := Option.some.inj reserved
        trivial
      · cases reserved

private theorem symbol_spelt {token : Token} (single : Token.symbol? c = some token) :
    Spelt token := by
  unfold Token.symbol? at single
  split at single <;> simp at single <;> subst single <;> trivial

/-- Every token that is read is spelt by characters of the text. -/
theorem next_spelt {lexeme : Lexeme} (item : cursor.next.1 = .ok lexeme) :
    Spelt lexeme.token := by
  cases left : (cursor.skipWhile isBlank).rest with
  | nil =>
    rw [next_done left] at item
    obtain rfl := Except.ok.inj item
    trivial
  | cons first others =>
    obtain ⟨start,c⟩ := first
    unfold next at item
    simp only [left] at item
    split at item
    · next token single =>
      obtain rfl := Except.ok.inj item
      exact symbol_spelt single
    · next single =>
      split at item
      · next digit =>
        obtain rfl := Except.ok.inj item
        obtain ⟨more,read⟩ := run_first left digit
        exact ⟨by simp [read],run_all Char.isDigit⟩
      · next digit =>
        split at item
        · next letter =>
          obtain rfl := Except.ok.inj item
          obtain ⟨more,read⟩ := run_first left letter
          exact wordToken_spelt ⟨run_all Text.isAlphabetic,c,more,read,blank_skipped left,single,
            by simpa using digit⟩
        · cases item

theorem scan_spelt (cursor : Cursor) : ∀ lexeme ∈ cursor.scan.1, Spelt lexeme.token := by
  induction size : cursor.rest.length using Nat.strongRecOn generalizing cursor with
  | ind size ih =>
    have spelt := @next_spelt cursor
    have shorter := cursor.next_shorter
    rw [scan_eq]
    cases item : cursor.next with
    | mk found after =>
      cases found with
      | error reason => simp
      | ok lexeme =>
        simp only [item,Except.ok.injEq,forall_eq'] at shorter spelt
        by_cases final : lexeme.token = .eof
        · simpa [final] using spelt
        · have rest := ih _ (size ▸ shorter final) after rfl
          simpa [final] using ⟨spelt,rest⟩

end Cursor
end Scriptlet
