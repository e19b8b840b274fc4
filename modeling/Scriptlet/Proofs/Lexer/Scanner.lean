import Scriptlet.Lexer.Scanner
import Scriptlet.Proofs.Lexer.Lossless

/-! Scanning with two characters in view. A scanner finds out where a character stops when the next
one comes, or when none comes; a cursor knows it from the start. Both give the same items, so that
tokens and faults stand where the given positions put them, whatever these are. -/
namespace Scriptlet

def Piece.content : Piece → Except Char Token
  | .ok lexeme => .ok lexeme.token
  | .error error => .error error.char

/-- The input gives these characters and then none, however often it is asked. -/
inductive Delivers {ι : Type} [Characters ι] : ι → List (UInt32 × Char) → Prop where
  | done {input} (ended : Characters.pull input = (none,input)) : Delivers input []
  | more {input position c after rest} (given : Characters.pull input = (some (position,c),after))
      (others : Delivers after rest) : Delivers input ((position,c) :: rest)

private theorem list_delivers (chars : List (UInt32 × Char)) : Delivers chars chars := by
  induction chars with
  | nil => exact .done rfl
  | cons item chars ih => exact .more rfl ih

namespace Scanner
variable {ι : Type} [Characters ι] {scanner : Scanner ι} {cursor : Cursor} {input after : ι}
    {c : Char}
  {keep : Char → Bool} {taken : String}

section
variable {current ahead : Option Char} {start stop position : UInt32}

private theorem advance_some (given : Characters.pull input = (some (position,c),after)) :
    (⟨current,start,ahead,stop,input⟩ : Scanner ι).advance =
      ⟨ahead,stop,some c,position,after⟩ := by
  simp only [advance,given]

private theorem advance_none (ended : Characters.pull input = (none,after)) :
    (⟨current,start,ahead,stop,input⟩ : Scanner ι).advance = ⟨ahead,stop,none,match ahead with
      | some c => stop + Cursor.room c
      | none => stop,after⟩ := by
  unfold advance
  split
  · next given => cases ended.symm.trans given
  · next given =>
    obtain ⟨_,rfl⟩ := Prod.mk.inj (ended.symm.trans given)
    rfl

end

inductive Views : Scanner ι → Cursor → Prop where
  | done {position aheadPosition input} (left : Delivers input []) :
      Views ⟨none,position,none,aheadPosition,input⟩ ⟨[],position⟩
  | last {position c input} (left : Delivers input []) :
      Views ⟨some c,position,none,position + Cursor.room c,input⟩
        ⟨[(position,c)],position + Cursor.room c⟩
  | more {position c aheadPosition d input rest} (left : Delivers input rest) :
      Views ⟨some c,position,some d,aheadPosition,input⟩
        ⟨(position,c) :: (aheadPosition,d) :: rest,
          (Cursor.ofPositioned ((aheadPosition,d) :: rest)).final⟩

theorem ofInput_views {chars : List (UInt32 × Char)} (delivers : Delivers input chars) :
    (ofInput input).Views (Cursor.ofPositioned chars) := by
  unfold ofInput
  cases delivers with
  | done ended =>
    rw [advance_none ended,advance_none ended]
    exact .done (.done ended)
  | more given others =>
    rw [advance_some given]
    cases others with
    | done ended =>
      rw [advance_none ended]
      exact .last (.done ended)
    | more given others =>
      rw [advance_some given]
      exact .more others

theorem ofPositioned_views (chars : List (UInt32 × Char)) :
    (ofPositioned chars).Views (Cursor.ofPositioned chars) := ofInput_views (list_delivers chars)

theorem ofText_views (text : String) : (ofText text).Views (Cursor.ofText text) :=
  ofPositioned_views _

theorem Views.current (views : scanner.Views cursor) :
    scanner.current = cursor.rest.head?.map (·.2) := by
  cases views <;> rfl

theorem Views.position (views : scanner.Views cursor) : scanner.position = cursor.position := by
  cases views <;> rfl

theorem Views.advance {item : UInt32 × Char} {rest : List (UInt32 × Char)} {final : UInt32}
    (views : scanner.Views ⟨item :: rest,final⟩) : scanner.advance.Views ⟨rest,final⟩ := by
  cases views with
  | last left =>
    cases left with
    | done ended =>
      rw [advance_none ended]
      exact .done (.done ended)
  | more left =>
    cases left with
    | done ended =>
      rw [advance_none ended]
      exact .last (.done ended)
    | more given others =>
      rw [advance_some given]
      exact .more others

theorem takeWhile_none (ended : scanner.current = none) :
    scanner.takeWhile keep taken = (taken,scanner) := by
  rw [takeWhile]
  split
  · rfl
  · next found =>
    rw [ended] at found
    cases found

theorem takeWhile_some (found : scanner.current = some c) :
    scanner.takeWhile keep taken =
      if keep c then scanner.advance.takeWhile keep (taken.push c) else (taken,scanner) := by
  rw [takeWhile]
  split
  · next ended =>
    rw [found] at ended
    cases ended
  · next again =>
    obtain rfl : c = _ := Option.some.inj (found.symm.trans again)
    rfl

theorem Views.takeWhile (views : scanner.Views cursor) (keep : Char → Bool) (taken : String) :
    (scanner.takeWhile keep taken).1 = taken ++ cursor.run keep ∧
      (scanner.takeWhile keep taken).2.Views (cursor.skipWhile keep) := by
  obtain ⟨rest,final⟩ := cursor
  rw [Cursor.run,Cursor.skipWhile]
  induction rest generalizing scanner taken with
  | nil =>
    rw [takeWhile_none views.current]
    exact ⟨by simp,views⟩
  | cons item rest ih =>
    rw [takeWhile_some views.current]
    cases kept : keep item.2 with
    | false => simpa [kept] using views
    | true =>
      obtain ⟨text,behind⟩ := ih (taken.push item.2) views.advance
      simp only [kept,if_true,List.takeWhile_cons,List.dropWhile_cons,List.map_cons,
        String.ofList_cons,← String.append_assoc,← String.push_eq_append]
      exact ⟨text,behind⟩

variable [Alphabet]

theorem Views.next (views : scanner.Views cursor) :
    scanner.next.1 = cursor.next.1 ∧ scanner.next.2.Views cursor.next.2 := by
  unfold Scanner.next Cursor.next
  have solid := (views.takeWhile Cursor.isBlank "").2
  generalize (scanner.takeWhile Cursor.isBlank "").2 = scanner at solid ⊢
  generalize cursor.skipWhile Cursor.isBlank = cursor at solid ⊢
  obtain ⟨rest,final⟩ := cursor
  have here := solid.position
  cases rest with
  | nil =>
    simp only [solid.current,here,List.head?_nil,Option.map_none]
    exact ⟨rfl,solid⟩
  | cons item rest =>
    obtain ⟨start,c⟩ := item
    have next := solid.advance
    simp only [solid.current,here,List.head?_cons,Option.map_some]
    cases Token.symbol? c with
    | some token => exact ⟨by rw [next.position]; rfl,next⟩
    | none =>
      dsimp only
      split
      · obtain ⟨digits,after⟩ := solid.takeWhile Char.isDigit ""
        exact ⟨by rw [digits,String.empty_append,after.position]; rfl,after⟩
      · split
        · obtain ⟨letters,after⟩ := solid.takeWhile Alphabet.letter ""
          exact ⟨by rw [letters,String.empty_append,after.position]; rfl,after⟩
        · exact ⟨by rw [next.position]; rfl,next⟩

/-- A scanner gives the items that the cursor gives, also behind faults and the end. -/
theorem Views.items (views : scanner.Views cursor) (count : Nat) :
    scanner.items count = cursor.items count := by
  induction count generalizing scanner cursor with
  | zero => rfl
  | succ count ih =>
    obtain ⟨item,after⟩ := views.next
    rw [Scanner.items,Cursor.items,item,ih after]

end Scanner

namespace Cursor

def stopOf (chars : List (UInt32 × Char)) : UInt32 :=
  match chars.getLast? with
  | none => 0
  | some (position,c) => position + room c

/-- The characters divided into blanks and pieces. A piece starts where its first character stands;
it stops where the character behind its last one stands, or where the last one stops if nothing
is behind it. -/
inductive Divided : List (UInt32 × Char) → List Piece → Prop where
  | done : Divided [] []
  | blank {position c rest pieces} (skipped : isBlank c = true) (more : Divided rest pieces) :
      Divided ((position,c) :: rest) pieces
  | piece {position c others rest piece pieces}
      (text : piece.text = String.ofList (c :: others.map (·.2)))
      (start : piece.span.start = position)
      (stop : piece.span.stop = match rest with
        | [] => stopOf ((position,c) :: others)
        | (behind,_) :: _ => behind)
      (more : Divided rest pieces) :
      Divided ((position,c) :: others ++ rest) (piece :: pieces)

private theorem stopOf_append {front left : List (UInt32 × Char)} (some : left ≠ []) :
    stopOf (front ++ left) = stopOf left := by
  obtain ⟨item,last⟩ := List.getLast?_isSome.mpr some |> Option.isSome_iff_exists.mp
  rw [stopOf,List.getLast?_append,last,Option.some_or,stopOf,last]

private theorem ofPositioned_shows (chars : List (UInt32 × Char)) :
    (ofPositioned chars).Shows (ofPositioned chars).place 0 (chars.map (·.2)) :=
  ⟨rfl,fun ahead => by rw [Nat.zero_add]⟩

variable [Alphabet] {place : Nat → UInt32} {index : Nat} {chars : List Char} {pieces : List Piece}

private theorem Laid.divided (laid : Laid place index chars pieces) {given : List (UInt32 × Char)}
    {final : UInt32} (shown : (⟨given,final⟩ : Cursor).Shows place index chars)
    (ended : given ≠ [] → final = stopOf given) : Divided given pieces := by
  induction laid generalizing given with
  | done =>
    obtain rfl : given = [] := List.map_eq_nil_iff.mp shown.chars
    exact .done
  | @blank index c rest pieces skipped more ih =>
    have apart : (⟨given,final⟩ : Cursor).Shows place index ([c] ++ rest) := shown
    obtain ⟨front,left,parts,same,later⟩ := apart.split
    obtain ⟨⟨position,c⟩,rfl,rfl⟩ := List.map_eq_singleton_iff.mp same
    dsimp only at parts later
    subst parts
    exact .blank skipped (ih later fun some => (ended (by simp)).trans (stopOf_append some))
  | @piece index taken rest make pieces formed more ih =>
    have start := shown.position
    obtain ⟨front,left,parts,rfl,later⟩ := shown.split
    have stop := later.position
    dsimp only at parts later stop
    subst parts
    cases front with
    | nil => exact (formed.ne_nil rfl).elim
    | cons item others =>
      obtain ⟨position,c⟩ := item
      refine .piece (formed.text _) ?_ ?_ (ih later fun some => ?_)
      · rw [formed.span,← start]
        rfl
      · rw [formed.span,← stop]
        cases left with
        | nil => exact (ended (by simp)).trans (by rw [List.append_nil])
        | cons next others => rfl
      · rw [ended (by simp),stopOf_append some]

theorem Forms.content {taken rest : List Char} {make : Span → Piece}
    (formed : Forms taken rest make) (span span' : Span) :
    (make span).content = (make span').content := by
  cases formed <;> rfl

/-- The same characters at other places are laid out in pieces that say the same. -/
theorem Laid.elsewhere (laid : Laid place index chars pieces) (place' : Nat → UInt32) :
    ∃ pieces', Laid place' index chars pieces' ∧
      pieces'.map Piece.content = pieces.map Piece.content := by
  induction laid with
  | done => exact ⟨[],.done,rfl⟩
  | blank skipped _ ih =>
    obtain ⟨pieces',more,same⟩ := ih
    exact ⟨pieces',.blank skipped more,same⟩
  | piece formed _ ih =>
    obtain ⟨pieces',more,same⟩ := ih
    refine ⟨_,.piece formed more,?_⟩
    rw [List.map_cons,List.map_cons,same,formed.content]

end Cursor
open Cursor

theorem Cursor.Laid.scanned {ι : Type} [Characters ι] [Alphabet] {scanner : Scanner ι}
    {cursor : Cursor} {place : Nat → UInt32}
    {chars : List Char} {pieces : List Piece} (laid : Laid place 0 chars pieces)
    (views : scanner.Views cursor) (shown : cursor.Shows place 0 chars) (count : Nat) :
    scanner.items count = (pieces ++ List.replicate count
      (Except.ok (endToken cursor.final))).take count := by
  rw [views.items,laid.items shown,shown.final]

/-- Tokens and faults keep the positions that were given with the characters. Taken one by one,
past every fault, they divide the characters, and behind them every item is the end token at the
place where the last character stops. What they say does not depend on the positions. -/
theorem positions_follow_characters [Alphabet] (chars : List (UInt32 × Char)) :
    ∃ pieces : List Piece, Divided chars pieces ∧
      (∀ lexeme, .ok lexeme ∈ pieces → lexeme.token ≠ .eof) ∧
      ∀ count,
        (Scanner.ofPositioned chars).items count = (pieces ++ List.replicate count
          (Except.ok (endToken (stopOf chars)))).take count ∧
        ((Scanner.ofPositioned chars).items count).map Piece.content =
          ((Scanner.ofText (String.ofList (chars.map (·.2)))).items count).map Piece.content := by
  have shown := ofPositioned_shows chars
  have shown' := ofText_shows (String.ofList (chars.map (·.2)))
  rw [String.toList_ofList] at shown'
  obtain ⟨pieces,laid⟩ := exists_laid (ofPositioned chars).place 0 (chars.map (·.2))
  obtain ⟨pieces',laid',same⟩ := laid.elsewhere (textPlace (chars.map (·.2)))
  have items := laid.scanned (Scanner.ofPositioned_views chars) shown
  have items' := laid'.scanned (Scanner.ofText_views _) shown'
  refine ⟨pieces,laid.divided shown fun _ => rfl,fun lexeme => laid.ne_eof,fun count => ?_⟩
  refine ⟨items count,?_⟩
  rw [items,items',List.map_take,List.map_take,List.map_append,List.map_append,same,
    List.map_replicate,List.map_replicate]
  rfl

-- Positions that go backwards and repeat, with a fault as the last character.
example : (Scanner.ofPositioned [(7,'2'),(3,'1'),(3,' '),(0,'#')]).items 4 =
    [.ok ⟨.number "21",⟨7,3⟩⟩,.error ⟨'#',⟨0,1⟩⟩,.ok ⟨.eof,⟨1,1⟩⟩,.ok ⟨.eof,⟨1,1⟩⟩] := by
  cbv

end Scriptlet
