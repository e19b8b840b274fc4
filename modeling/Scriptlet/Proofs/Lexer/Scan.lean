import Scriptlet.Lexer

/-! Scanning to the end. Every item but the end token takes at least one character, so a scan
reaches the end token or a fault, and only its last item is one of the two. -/
namespace Scriptlet

namespace Cursor

/-- Characters counted one by one stand where they stand in the text. -/
theorem positions_of_splits {text before after : String} {place : text.Pos}
    (splits : place.Splits before after) :
    (String.Model.positionsFrom place).map
        (fun place => (.ofNat place.1.offset.byteIdx,place.1.get place.2)) =
      positions (.ofNat place.offset.byteIdx) after.toList := by
  induction place using String.Pos.next_induction generalizing before after with
  | next place inner ih =>
    obtain ⟨after,rfl⟩ := splits.exists_eq_singleton_append inner
    rw [String.Model.positionsFrom_eq_cons inner,List.map_cons,ih splits.next,
      String.toList_append,String.toList_singleton,List.singleton_append,positions,
      String.Pos.byteIdx_offset_next,room,UInt32.ofNat_add]
  | endPos =>
    obtain ⟨_,rfl⟩ := String.splits_endPos_iff.mp splits
    simp [positions]

theorem ofText_eq (text : String) : ofText text = ofChars text.toList := by
  rw [ofText,ofChars,String.toList_positions,positions_of_splits (String.splits_startPos text)]
  rfl

variable {cursor : Cursor}

private theorem skipWhile_shorter (keep : Char → Bool) :
    (cursor.skipWhile keep).rest.length ≤ cursor.rest.length :=
  (List.dropWhile_sublist _).length_le

theorem symbol_ne_eof {c : Char} {token : Token} (symbol : Token.symbol? c = some token) :
    token ≠ .eof := by
  intro final
  subst final
  unfold Token.symbol? at symbol
  split at symbol <;> simp at symbol

theorem wordToken_ne_eof (word : String) : wordToken word ≠ .eof := by
  unfold wordToken Token.keyword?
  split <;> (try split) <;> simp

variable [Alphabet]

/-- Where a character other than a blank is left, the next item takes it and is not the end
token. -/
theorem next_inner {start : UInt32} {c : Char} {others : List (UInt32 × Char)}
    (left : (cursor.skipWhile isBlank).rest = (start,c) :: others) :
    (∀ lexeme, cursor.next.1 = .ok lexeme → lexeme.token ≠ .eof) ∧
      cursor.next.2.rest.length < cursor.rest.length := by
  have shorter : others.length < cursor.rest.length := by
    have fewer := cursor.skipWhile_shorter isBlank
    rw [left] at fewer
    exact fewer
  have within {keep : Char → Bool} (held : keep c = true) :
      ((cursor.skipWhile isBlank).skipWhile keep).rest.length ≤ others.length := by
    rw [skipWhile,left]
    simp only [List.dropWhile_cons,held,if_true]
    exact (List.dropWhile_sublist _).length_le
  unfold next
  simp only [left]
  split
  · next token symbol =>
    refine ⟨?_,shorter⟩
    intro lexeme same
    obtain rfl := Except.ok.inj same
    exact symbol_ne_eof symbol
  · split
    · next digit =>
      refine ⟨?_,Nat.lt_of_le_of_lt (within digit) shorter⟩
      intro lexeme same
      obtain rfl := Except.ok.inj same
      simp
    · split
      · next letter =>
        refine ⟨?_,Nat.lt_of_le_of_lt (within letter) shorter⟩
        intro lexeme same
        obtain rfl := Except.ok.inj same
        exact wordToken_ne_eof _
      · exact ⟨by simp,shorter⟩

theorem next_done (left : (cursor.skipWhile isBlank).rest = []) :
    cursor.next = (.ok ⟨.eof,⟨cursor.final,cursor.final⟩⟩,cursor.skipWhile isBlank) := by
  unfold next
  simp only [left]
  rfl

theorem next_shorter (cursor : Cursor)
    (inner : ∀ lexeme, cursor.next.1 = .ok lexeme → lexeme.token ≠ .eof) :
    cursor.next.2.rest.length < cursor.rest.length := by
  cases left : (cursor.skipWhile isBlank).rest with
  | nil =>
    rw [next_done left] at inner
    exact (inner _ rfl rfl).elim
  | cons item others => exact (next_inner left).2

private theorem lexemes_eq {count count' : Nat} (here : cursor.rest.length < count)
    (there : cursor.rest.length < count') : cursor.lexemes count = cursor.lexemes count' := by
  induction count generalizing cursor count' with
  | zero => omega
  | succ count ih =>
    obtain ⟨count',rfl⟩ : ∃ less, count' = less + 1 := ⟨count' - 1,by omega⟩
    rw [lexemes,lexemes]
    cases item : cursor.next with
    | mk found after =>
      cases found with
      | error reason => rfl
      | ok lexeme =>
        dsimp only
        split
        · rfl
        · next inner =>
          have shorter := cursor.next_shorter
          simp only [item,Except.ok.injEq,forall_eq'] at shorter
          have fewer := shorter inner
          rw [ih (by omega) (show after.rest.length < count' by omega)]

theorem scan_eq : cursor.scan =
    match cursor.next with
    | (.error error,_) => ([],some error)
    | (.ok lexeme,after) =>
      if lexeme.token = .eof then ([lexeme],none)
      else (lexeme :: after.scan.1,after.scan.2) := by
  rw [scan,lexemes]
  cases item : cursor.next with
  | mk found after =>
    cases found with
    | error reason => rfl
    | ok lexeme =>
      dsimp only
      split
      · rfl
      · next inner =>
        have shorter := cursor.next_shorter
        simp only [item,Except.ok.injEq,forall_eq'] at shorter
        rw [scan,lexemes_eq (shorter inner) (Nat.lt_succ_self _)]

/-- A scan without a fault ends in the only end token; a scan with one has no end token, and
the items up to the fault are its tokens. -/
theorem scan_ends (cursor : Cursor) :
    (cursor.scan.2 = none → ∃ inner final, cursor.scan.1 = inner ++ [final] ∧
      final.token = .eof ∧ ∀ lexeme ∈ inner, lexeme.token ≠ .eof) ∧
    (∀ error, cursor.scan.2 = some error → (∀ lexeme ∈ cursor.scan.1, lexeme.token ≠ .eof) ∧
      cursor.items (cursor.scan.1.length + 1) = cursor.scan.1.map .ok ++ [.error error]) := by
  induction size : cursor.rest.length using Nat.strongRecOn generalizing cursor with
  | ind size ih =>
    have shorter := cursor.next_shorter
    rw [scan_eq]
    cases item : cursor.next with
    | mk found after =>
      cases found with
      | error reason =>
        refine ⟨by simp,?_⟩
        intro error same
        obtain rfl := Option.some.inj same
        simp [items,item]
      | ok lexeme =>
        simp only [item,Except.ok.injEq,forall_eq'] at shorter
        by_cases final : lexeme.token = .eof
        · simp only [if_pos final]
          exact ⟨fun _ => ⟨[],lexeme,rfl,final,by simp⟩,by simp⟩
        · simp only [if_neg final]
          obtain ⟨ended,failed⟩ := ih _ (size ▸ shorter final) after rfl
          constructor
          · intro sound
            obtain ⟨inner,last,whole,eof,other⟩ := ended sound
            refine ⟨lexeme :: inner,last,by rw [whole]; rfl,eof,?_⟩
            simpa [final] using other
          · intro error found
            obtain ⟨other,read⟩ := failed error found
            refine ⟨by simpa [final] using other,?_⟩
            rw [List.length_cons,items,item,read]
            rfl

end Cursor
end Scriptlet
