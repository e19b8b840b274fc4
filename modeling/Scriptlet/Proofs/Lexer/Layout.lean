import Scriptlet.Proofs.Lexer.Positions

/-! How characters are laid out in pieces. Characters fall into blanks, tokens and faults, each
token as long as it can be; reading item by item, past every fault, gives these pieces and then
the end token for ever. Where the characters stand is left open. -/
namespace Scriptlet

abbrev Piece := Except LexError Lexeme

def Piece.span : Piece → Span
  | .ok lexeme => lexeme.span
  | .error error => error.span

def Piece.text : Piece → String
  | .ok lexeme => lexeme.token.literal
  | .error error => String.singleton error.char

def Lexeme.shift (offset : UInt32) (lexeme : Lexeme) : Lexeme :=
  ⟨lexeme.token,lexeme.span.shift offset⟩

def Piece.shift (offset : UInt32) : Piece → Piece
  | .ok lexeme => .ok (lexeme.shift offset)
  | .error error => .error ⟨error.char,error.span.shift offset⟩

namespace Cursor

private theorem symbol_literal {c : Char} {token : Token} (single : Token.symbol? c = some token) :
    token.literal = String.singleton c := by
  unfold Token.symbol? at single
  split at single <;> simp at single <;> subst single <;> rfl

theorem wordToken_literal (word : String) : (wordToken word).literal = word := by
  unfold wordToken Token.keyword?
  split
  · next same => exact same.symm
  · split
    · next same => exact same.symm
    · rfl

theorem splits_while (keep : Char → Bool) (chars : List Char) :
    chars = chars.takeWhile keep ++ chars.dropWhile keep ∧
      (∀ c ∈ chars.takeWhile keep, keep c = true) ∧
      ∀ c ∈ (chars.dropWhile keep).head?, keep c = false := by
  refine ⟨List.takeWhile_append_dropWhile.symm,List.all_eq_true.mp List.all_takeWhile,?_⟩
  intro c head
  have stops := List.head?_dropWhile_not keep chars
  rw [Option.mem_def.mp head] at stops
  exact stops

variable [Alphabet]

def isLexical (c : Char) : Bool :=
  isBlank c || (Token.symbol? c).isSome || c.isDigit || Alphabet.letter c

/-- The first characters, as far as one piece goes, the characters behind them, and the piece they
form once it is known where they stand. -/
inductive Forms : List Char → List Char → (Span → Piece) → Prop where
  | symbol {c token rest} (single : Token.symbol? c = some token) :
      Forms [c] rest fun span => .ok ⟨token,span⟩
  | numeral {digits rest} (read : IsNumeral digits)
      (apart : ∀ c ∈ rest.head?, c.isDigit = false) :
      Forms digits rest fun span => .ok ⟨.number (String.ofList digits),span⟩
  | word {first others rest} (solid : isBlank first = false)
      (plain : Token.symbol? first = none) (digit : first.isDigit = false)
      (letters : ∀ c ∈ first :: others, Alphabet.letter c = true)
      (apart : ∀ c ∈ rest.head?, Alphabet.letter c = false) :
      Forms (first :: others) rest fun span =>
        .ok ⟨wordToken (String.ofList (first :: others)),span⟩
  | foreign {c rest} (alien : isLexical c = false) : Forms [c] rest fun span => .error ⟨c,span⟩

/-- The characters from an index on, and their pieces; `place` gives the position of every index. -/
inductive Laid (place : Nat → UInt32) : Nat → List Char → List Piece → Prop where
  | done {index} : Laid place index [] []
  | blank {index c rest pieces} (skipped : isBlank c = true)
      (more : Laid place (index + 1) rest pieces) : Laid place index (c :: rest) pieces
  | piece {index taken rest make pieces} (formed : Forms taken rest make)
      (more : Laid place (index + taken.length) rest pieces) :
      Laid place index (taken ++ rest) (make ⟨place index,place (index + taken.length)⟩ :: pieces)

section
variable {taken rest : List Char} {make : Span → Piece}

theorem Forms.ne_nil (formed : Forms taken rest make) : taken ≠ [] := by
  cases formed with
  | numeral read => exact read.1
  | symbol | word | foreign => simp

theorem Forms.span (formed : Forms taken rest make) (span : Span) :
    (make span).span = span := by
  cases formed <;> rfl

theorem Forms.text (formed : Forms taken rest make) (span : Span) :
    (make span).text = String.ofList taken := by
  cases formed with
  | symbol single => exact symbol_literal single
  | numeral => rfl
  | word => exact wordToken_literal _
  | foreign => rfl

theorem Forms.shift (formed : Forms taken rest make) (offset : UInt32) (span : Span) :
    Piece.shift offset (make span) = make (span.shift offset) := by
  cases formed <;> rfl

theorem Forms.ne_eof (formed : Forms taken rest make) {span : Span} {lexeme : Lexeme}
    (made : make span = .ok lexeme) : lexeme.token ≠ .eof := by
  cases formed with
  | symbol single =>
    obtain rfl := Except.ok.inj made
    exact symbol_ne_eof single
  | numeral =>
    obtain rfl := Except.ok.inj made
    simp
  | word =>
    obtain rfl := Except.ok.inj made
    exact wordToken_ne_eof _
  | foreign => cases made

end

section
variable {place : Nat → UInt32} {index : Nat} {chars : List Char} {pieces : List Piece}

theorem Laid.shift {place' : Nat → UInt32} {index' : Nat} {offset : UInt32}
    (laid : Laid place index chars pieces)
    (moved : ∀ ahead ≤ chars.length, place' (index' + ahead) = place (index + ahead) + offset) :
    Laid place' index' chars (pieces.map (Piece.shift offset)) := by
  induction laid generalizing index' with
  | done => exact .done
  | @blank index c rest pieces skipped more ih =>
    refine .blank skipped (ih fun ahead within => ?_)
    have later := moved (1 + ahead) (by simp only [List.length_cons]; omega)
    rwa [← Nat.add_assoc,← Nat.add_assoc] at later
  | @piece index taken rest make pieces formed more ih =>
    simp only [List.length_append] at moved
    have start := moved 0 (by omega)
    have stop := moved taken.length (by omega)
    have spot : (⟨place index,place (index + taken.length)⟩ : Span).shift offset =
        ⟨place' index',place' (index' + taken.length)⟩ := by
      rw [stop,← Nat.add_zero index',start]
      rfl
    rw [List.map_cons,formed.shift,spot]
    refine .piece formed (ih fun ahead within => ?_)
    have later := moved (taken.length + ahead) (by omega)
    rwa [← Nat.add_assoc,← Nat.add_assoc] at later

theorem Laid.blanks {place : Nat → UInt32} {index : Nat} {front rest : List Char}
    {pieces : List Piece} (all : ∀ c ∈ front, isBlank c = true)
    (more : Laid place (index + front.length) rest pieces) :
    Laid place index (front ++ rest) pieces := by
  induction front generalizing index with
  | nil => exact more
  | cons c front ih =>
    have reach : index + (c :: front).length = index + 1 + front.length := by
      simp only [List.length_cons]
      omega
    exact .blank (all c (by simp)) (ih (fun d member => all d (by simp [member])) (reach ▸ more))

end

/-! Every sequence of characters is laid out. -/

private theorem exists_forms {c : Char} (chars : List Char) (solid : isBlank c = false) :
    ∃ taken rest make, c :: chars = taken ++ rest ∧ Forms taken rest make := by
  cases single : Token.symbol? c with
  | some token => exact ⟨[c],chars,_,rfl,.symbol single⟩
  | none =>
    cases digit : c.isDigit with
    | true =>
      obtain ⟨whole,digits,apart⟩ := splits_while Char.isDigit (c :: chars)
      have nonempty : (c :: chars).takeWhile Char.isDigit ≠ [] := by simp [digit]
      exact ⟨_,_,_,whole,.numeral ⟨nonempty,digits⟩ apart⟩
    | false =>
      cases letter : Alphabet.letter c with
      | true =>
        obtain ⟨whole,letters,apart⟩ := splits_while Alphabet.letter (c :: chars)
        rw [List.takeWhile_cons_of_pos letter] at whole letters
        exact ⟨_,_,_,whole,.word solid single digit letters apart⟩
      | false =>
        have alien : isLexical c = false := by simp [isLexical,solid,single,digit,letter]
        exact ⟨[c],chars,_,rfl,.foreign alien⟩

theorem exists_laid (place : Nat → UInt32) (index : Nat) (chars : List Char) :
    ∃ pieces, Laid place index chars pieces := by
  induction counted : chars.length using Nat.strongRecOn generalizing chars index with
  | ind size ih =>
    cases chars with
    | nil => exact ⟨[],.done⟩
    | cons c chars =>
      cases skipped : isBlank c with
      | true =>
        have fewer : chars.length < size := by simp [← counted]
        obtain ⟨pieces,more⟩ := ih chars.length fewer (index + 1) chars rfl
        exact ⟨pieces,.blank skipped more⟩
      | false =>
        obtain ⟨taken,rest,make,whole,formed⟩ := exists_forms chars skipped
        have some : 0 < taken.length := List.length_pos_iff.mpr formed.ne_nil
        have total := congrArg List.length whole
        rw [counted,List.length_append] at total
        obtain ⟨pieces,more⟩ := ih rest.length (by omega) (index + taken.length) rest rfl
        rw [whole]
        exact ⟨_,.piece formed more⟩

/-! Reading the pieces. -/

section
variable {place : Nat → UInt32} {index : Nat} {cursor : Cursor} {taken rest : List Char}
  {make : Span → Piece}

/-- The next item is the first piece, and the characters behind it are left. -/
theorem Forms.next (formed : Forms taken rest make)
    (shown : cursor.Shows place index (taken ++ rest)) :
    ∃ after : Cursor, cursor.next = (make ⟨place index,place (index + taken.length)⟩,after) ∧
      after.Shows place (index + taken.length) rest := by
  have here := shown.position
  obtain ⟨front,left,parts,same,later⟩ := shown.split
  have there := later.position
  refine ⟨⟨left,cursor.final⟩,?_,later⟩
  rw [← here,← there]
  cases formed with
  | symbol single =>
    obtain ⟨⟨start,_⟩,rfl,rfl⟩ := List.map_eq_singleton_iff.mp same
    unfold Cursor.next
    rw [skipBlanks parts (blank_of_symbol single)]
    simp only [parts,List.singleton_append,single,Cursor.position]
  | numeral read apart =>
    obtain ⟨nonempty,digits⟩ := read
    subst same
    have ended : ∀ c ∈ (left.map (·.2)).head?, c.isDigit = false := by rwa [later.chars]
    obtain ⟨run,skipped⟩ := run_append parts digits ended
    obtain ⟨⟨start,c⟩,more,rfl⟩ := List.exists_cons_of_ne_nil (by simpa using nonempty)
    have digit : c.isDigit = true := digits c (by simp)
    unfold Cursor.next
    rw [skipBlanks parts (blank_of_digit digit)]
    simp only [parts,List.cons_append,symbol_of_digit digit,digit,if_true,run,skipped,
      Cursor.position]
  | word solid plain digit letters apart =>
    have ended : ∀ c ∈ (left.map (·.2)).head?, Alphabet.letter c = false := by rwa [later.chars]
    obtain ⟨run,skipped⟩ := run_append parts (same ▸ letters) ended
    obtain ⟨⟨start,c⟩,more,rfl,rfl,rfl⟩ := List.map_eq_cons_iff.mp same
    have letter : Alphabet.letter c = true := letters c (by simp)
    unfold Cursor.next
    rw [skipBlanks parts solid]
    simp only [parts,List.cons_append,plain,digit,Bool.false_eq_true,if_false,letter,if_true,run,
      skipped,List.map_cons,Cursor.position]
  | foreign alien =>
    obtain ⟨⟨start,c⟩,rfl,rfl⟩ := List.map_eq_singleton_iff.mp same
    simp only [isLexical,Bool.or_eq_false_iff,Option.isSome_eq_false_iff,
      Option.isNone_iff_eq_none] at alien
    obtain ⟨⟨⟨solid,plain⟩,digit⟩,letter⟩ := alien
    unfold Cursor.next
    rw [skipBlanks parts solid]
    simp only [parts,List.singleton_append,plain,digit,letter,Bool.false_eq_true,if_false,
      Cursor.position]

theorem Shows.next_blank {c : Char} (shown : cursor.Shows place index (c :: rest))
    (skipped : isBlank c = true) :
    ∃ after : Cursor, cursor.next = after.next ∧ after.Shows place (index + 1) rest := by
  have apart : cursor.Shows place index ([c] ++ rest) := shown
  obtain ⟨front,left,parts,same,later⟩ := apart.split
  obtain ⟨⟨start,c⟩,rfl,rfl⟩ := List.map_eq_singleton_iff.mp same
  exact ⟨⟨left,cursor.final⟩,Cursor.next_blank parts skipped,later⟩

/-- At the end of the characters comes the end token, and the cursor stays there. -/
theorem Shows.next_end (shown : cursor.Shows place index []) :
    cursor.next = (.ok ⟨.eof,⟨place index,place index⟩⟩,cursor) := by
  have empty : cursor.rest = [] := List.map_eq_nil_iff.mp shown.chars
  have skipped : cursor.skipWhile isBlank = cursor := by
    obtain ⟨_,final⟩ := cursor
    subst empty
    rfl
  have final : cursor.final = place index := shown.final
  rw [next_done (by rw [skipped,empty]),skipped,final]

end

section
variable {place : Nat → UInt32} {index : Nat} {chars : List Char} {pieces : List Piece}
  {cursor : Cursor}

def endToken (position : UInt32) : Lexeme := ⟨.eof,⟨position,position⟩⟩

theorem Laid.items (laid : Laid place index chars pieces)
    (shown : cursor.Shows place index chars) (count : Nat) :
    cursor.items count = (pieces ++ List.replicate count
      (Except.ok (endToken (place (index + chars.length))))).take count := by
  induction laid generalizing cursor count with
  | @done index =>
    induction count with
    | zero => rfl
    | succ count ih =>
      rw [Cursor.items,shown.next_end,ih]
      simp [endToken,List.replicate_succ]
  | @blank index c rest pieces skipped more ih =>
    cases count with
    | zero => rfl
    | succ count =>
      obtain ⟨after,same,later⟩ := shown.next_blank skipped
      have reach : index + (c :: rest).length = index + 1 + rest.length := by
        simp only [List.length_cons]
        omega
      rw [Cursor.items,same,← Cursor.items,ih later (count + 1),reach]
  | @piece index taken rest make pieces formed more ih =>
    cases count with
    | zero => rfl
    | succ count =>
      obtain ⟨after,item,later⟩ := formed.next shown
      have padded :
          min (count - pieces.length) count = min (count - pieces.length) (count + 1) := by
        omega
      rw [Cursor.items,item,ih later count,List.length_append,← Nat.add_assoc,List.cons_append,
        List.take_succ_cons,List.take_append,List.take_append,List.take_replicate,
        List.take_replicate,padded]

def gathered (final : Lexeme) : List Piece → List Lexeme × Option LexError
  | [] => ([final],none)
  | .error error :: _ => ([],some error)
  | .ok lexeme :: rest => (lexeme :: (gathered final rest).1,(gathered final rest).2)

theorem Laid.scan (laid : Laid place index chars pieces)
    (shown : cursor.Shows place index chars) :
    cursor.scan = gathered (endToken (place (index + chars.length))) pieces := by
  induction laid generalizing cursor with
  | @done index =>
    rw [scan_eq,shown.next_end]
    rfl
  | @blank index c rest pieces skipped more ih =>
    obtain ⟨after,same,later⟩ := shown.next_blank skipped
    rw [scan_eq,same,← scan_eq,ih later,List.length_cons,Nat.add_assoc,Nat.add_comm 1]
  | @piece index taken rest make pieces formed more ih =>
    obtain ⟨after,item,later⟩ := formed.next shown
    rw [scan_eq,item,List.length_append,← Nat.add_assoc]
    cases made : make ⟨place index,place (index + taken.length)⟩ with
    | error error => rfl
    | ok lexeme =>
      have inner := formed.ne_eof made
      simp only [inner,if_false,ih later,gathered]

end

theorem Laid.scan_text {source : String} {pieces : List Piece}
    (laid : Laid (textPlace source.toList) 0 source.toList pieces) :
    (ofText source).scan = gathered (endToken (.ofNat source.utf8ByteSize)) pieces := by
  have scanned := laid.scan (ofText_shows source)
  rwa [Nat.zero_add,textPlace_end] at scanned

end Cursor
end Scriptlet
