import Scriptlet.Proofs.Lexer.Spelling

/-! Where characters stand. The characters of a text stand behind as many bytes as the characters
before them take, modulo `2 ^ 32`; a cursor shows the characters from some index on. -/
namespace Scriptlet

def width (chars : List Char) : Nat := (String.ofList chars).utf8ByteSize

@[simp] theorem width_nil : width [] = 0 := rfl

@[simp] theorem width_cons (c : Char) (chars : List Char) :
    width (c :: chars) = c.utf8Size + width chars := by
  rw [width,String.ofList_cons,String.utf8ByteSize_append,String.utf8ByteSize_singleton,width]

@[simp] theorem width_append (before after : List Char) :
    width (before ++ after) = width before + width after := by
  rw [width,String.ofList_append,String.utf8ByteSize_append,width,width]

theorem width_toList (text : String) : width text.toList = text.utf8ByteSize := by
  rw [width,String.ofList_toList]

namespace Cursor

def Grows (place : Nat → UInt32) (limit : Nat) : Prop :=
  ∀ ⦃first second⦄, first < second → second ≤ limit → (place first).toNat < (place second).toNat

theorem Grows.le {place : Nat → UInt32} {limit first second : Nat} (grows : Grows place limit)
    (before : first ≤ second) (within : second ≤ limit) :
    (place first).toNat ≤ (place second).toNat := by
  rcases Nat.lt_or_eq_of_le before with less | rfl
  · exact Nat.le_of_lt (grows less within)
  · exact Nat.le_refl _

def bytesBefore (chars : List Char) (index : Nat) : Nat := width (chars.take index)

theorem bytesBefore_append (before after : List Char) :
    bytesBefore (before ++ after) before.length = width before := by
  rw [bytesBefore,List.take_left]

private theorem bytesBefore_length (chars : List Char) :
    bytesBefore chars chars.length = width chars := by
  rw [bytesBefore,List.take_length]

private theorem bytesBefore_le (chars : List Char) (index : Nat) :
    bytesBefore chars index ≤ width chars := by
  have whole := congrArg width (List.take_append_drop index chars)
  rw [width_append] at whole
  rw [bytesBefore]
  omega

private theorem bytesBefore_lt {chars : List Char} {first second : Nat} (less : first < second)
    (within : second ≤ chars.length) : bytesBefore chars first < bytesBefore chars second := by
  obtain ⟨more,rfl⟩ : ∃ more, second = first + (more + 1) := ⟨second - first - 1,by omega⟩
  have left : chars.drop first ≠ [] := by
    intro empty
    have short := List.drop_eq_nil_iff.mp empty
    omega
  obtain ⟨c,others,next⟩ := List.exists_cons_of_ne_nil left
  have some := c.utf8Size_pos
  rw [bytesBefore,bytesBefore,List.take_add,next,List.take_succ_cons,width_append,width_cons]
  omega

def textPlace (chars : List Char) (index : Nat) : UInt32 := .ofNat (bytesBefore chars index)

theorem textPlace_append (before after : List Char) :
    textPlace (before ++ after) before.length = .ofNat (width before) := by
  rw [textPlace,bytesBefore_append]

theorem textPlace_behind (before after : List Char) (ahead : Nat) :
    textPlace (before ++ after) (before.length + ahead) =
      textPlace after ahead + .ofNat (width before) := by
  rw [textPlace,textPlace,bytesBefore,bytesBefore,List.take_length_add_append,width_append,
    Nat.add_comm,UInt32.ofNat_add]

theorem textPlace_end (source : String) :
    textPlace source.toList source.toList.length = .ofNat source.utf8ByteSize := by
  rw [textPlace,bytesBefore_length,width_toList]

theorem textPlace_toNat {chars : List Char} (fits : width chars < UInt32.size) (index : Nat) :
    (textPlace chars index).toNat = bytesBefore chars index := by
  have within := bytesBefore_le chars index
  exact UInt32.toNat_ofNat_of_lt' (Nat.lt_of_le_of_lt within fits)

theorem textPlace_grows {chars : List Char} (fits : width chars < UInt32.size) :
    Grows (textPlace chars) chars.length := by
  intro first second less within
  rw [textPlace_toNat fits,textPlace_toNat fits]
  exact bytesBefore_lt less within

/-- The position of the character with this index among those left, or behind the last one. -/
def place (cursor : Cursor) (index : Nat) : UInt32 :=
  ((cursor.rest.map (·.1))[index]?).getD cursor.final

private theorem position_eq (cursor : Cursor) : cursor.position = cursor.place 0 := by
  obtain ⟨rest,final⟩ := cursor
  cases rest <;> rfl

/-- The characters left are those from the index on, each at its place. -/
structure Shows (cursor : Cursor) (place : Nat → UInt32) (index : Nat) (chars : List Char) :
    Prop where
  chars : cursor.rest.map (·.2) = chars
  places : ∀ ahead, cursor.place ahead = place (index + ahead)

section
variable {place : Nat → UInt32} {index : Nat} {cursor : Cursor} {before after : List Char}

theorem Shows.position (shown : cursor.Shows place index after) :
    cursor.position = place index := by
  rw [position_eq,shown.places,Nat.add_zero]

theorem Shows.final (shown : cursor.Shows place index after) :
    cursor.final = place (index + after.length) := by
  have length : cursor.rest.length = after.length := by rw [← shown.chars,List.length_map]
  have last := shown.places after.length
  rw [← last,Cursor.place,← length]
  simp

/-- Behind the first characters come the others. -/
theorem Shows.split (shown : cursor.Shows place index (before ++ after)) :
    ∃ taken left, cursor.rest = taken ++ left ∧ taken.map (·.2) = before ∧
      (⟨left,cursor.final⟩ : Cursor).Shows place (index + before.length) after := by
  obtain ⟨taken,left,parts,rfl,rfl⟩ := List.map_eq_append_iff.mp shown.chars
  refine ⟨taken,left,parts,rfl,rfl,?_⟩
  intro ahead
  have later := shown.places (taken.length + ahead)
  rw [List.length_map,Nat.add_assoc,← later,Cursor.place,Cursor.place,parts,List.map_append,
    List.getElem?_append_right (by simp)]
  simp

end

/-! Characters counted one by one. -/

private theorem place_positions (offset : UInt32) (index : Nat) (chars : List Char) :
    (⟨positions offset chars,offset + .ofNat (width chars)⟩ : Cursor).place index =
      offset + textPlace chars index := by
  induction chars generalizing offset index with
  | nil => simp [positions,place,textPlace,bytesBefore]
  | cons c chars ih =>
    cases index with
    | zero => simp [positions,place,textPlace,bytesBefore]
    | succ index =>
      have later := ih (offset + room c) index
      have passed : textPlace (c :: chars) (index + 1) = room c + textPlace chars index := by
        rw [textPlace,bytesBefore,List.take_succ_cons,width_cons,UInt32.ofNat_add]
        rfl
      have stop :
        offset + room c + .ofNat (width chars) = offset + .ofNat (width (c :: chars)) := by
        rw [width_cons,UInt32.ofNat_add,UInt32.add_assoc,room]
      rw [stop] at later
      rw [passed,← UInt32.add_assoc,← later]
      rfl

private theorem last_position (offset : UInt32) (c : Char) (chars : List Char) :
    ∃ position last, (positions offset (c :: chars)).getLast? = some (position,last) ∧
      position + room last = offset + .ofNat (width (c :: chars)) := by
  induction chars generalizing offset c with
  | nil => exact ⟨offset,c,rfl,by simp [room]⟩
  | cons d chars ih =>
    obtain ⟨position,last,final,stop⟩ := ih (offset + room c) d
    refine ⟨position,last,?_,?_⟩
    · rw [positions,List.getLast?_cons,final]
      rfl
    · rw [stop,width_cons c,UInt32.ofNat_add,UInt32.add_assoc,room]

private theorem ofChars_eq (chars : List Char) :
    ofChars chars = ⟨positions 0 chars,.ofNat (width chars)⟩ := by
  cases chars with
  | nil => rfl
  | cons c chars =>
    obtain ⟨position,last,final,stop⟩ := last_position 0 c chars
    rw [ofChars,ofPositioned,final]
    simpa using stop

theorem ofText_shows (source : String) :
    (ofText source).Shows (textPlace source.toList) 0 source.toList := by
  rw [ofText_eq,ofChars_eq]
  refine ⟨positions_chars 0 source.toList,?_⟩
  intro ahead
  have placed := place_positions 0 ahead source.toList
  simpa using placed

end Cursor
end Scriptlet
