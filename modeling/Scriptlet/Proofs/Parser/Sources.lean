import Scriptlet.Proofs.Lexer.Scanner
import Scriptlet.Proofs.Parser.Entries
import Scriptlet.Proofs.Parser.Window

/-! Windows and streams. A stream holds all tokens of a source from the start; a window pulls them
when they are needed. A parser sees no difference, so that what is proved about streams holds for
windows over sequences of items and over characters. -/
namespace Scriptlet
open Scriptlet.Parser

def Ending.ofFault : Option LexError → Ending
  | none => .closed
  | some error => .failed error

private theorem Stream.pending_cons (lexeme : Lexeme) (tokens : List Lexeme) (ending : Ending) :
    (⟨lexeme :: tokens,ending⟩ : Stream).pending =
      if lexeme.token = .eof then 0 else (⟨tokens,ending⟩ : Stream).pending + 1 := by
  by_cases eof : lexeme.token = .eof <;> simp [pending,eof]

private theorem Stream.pending_cons_le (lexeme : Lexeme) (tokens : List Lexeme) (ending : Ending) :
    (⟨lexeme :: tokens,ending⟩ : Stream).pending ≤ (⟨tokens,ending⟩ : Stream).pending + 1 := by
  rw [pending_cons]
  split <;> omega

namespace Source
variable {σ : Type} [Source σ]

/-- The source gives the tokens of the stream and then behaves as the stream does behind them. -/
inductive Lists : σ → Stream → Prop where
  | stopped {source rest} (fault : Option LexError)
      (found : pull source = (fault.map .error,rest)) : Lists source ⟨[],.ofFault fault⟩
  | endless {source rest final} (eof : final.token = .eof)
      (here : pull source = (some (.ok final),rest))
      (again : pull rest = (some (.ok final),rest)) : Lists source ⟨[final],.endless⟩
  | token {source rest lexeme tokens ending} (here : pull source = (some (.ok lexeme),rest))
      (shorter : lexeme.token ≠ .eof → extent rest < extent source)
      (more : Lists rest ⟨tokens,ending⟩) : Lists source ⟨lexeme :: tokens,ending⟩

theorem Lists.steady {source : σ} {stream : Stream} (lists : Lists source stream) :
    stream.Steady := by
  induction lists with
  | stopped fault found =>
    apply Stream.steady_of_ending
    cases fault <;> simp [Ending.ofFault]
  | endless eof => exact fun _ => ⟨_,rfl,eof⟩
  | @token _ _ lexeme tokens _ _ _ _ ih =>
    exact ih.of_append (show _ = [lexeme] ++ tokens from rfl) rfl

theorem Lists.pending {source : σ} {stream : Stream} (lists : Lists source stream) :
    stream.pending ≤ extent source := by
  induction lists with
  | stopped => exact Nat.zero_le _
  | endless eof =>
    rw [Stream.pending_cons,if_pos eof]
    exact Nat.zero_le _
  | token _ shorter _ ih =>
    rw [Stream.pending_cons]
    split
    · exact Nat.zero_le _
    · next inner => exact Nat.lt_of_le_of_lt ih (shorter inner)

end Source

namespace Window
variable {σ : Type} [Source σ] {source : σ} {stream : Stream}
open Source (Lists)

private theorem current_of_lists (lists : Lists source stream) :
    (ofSource source).current = stream.current := by
  cases lists with
  | stopped fault found => rw [ofSource_none found]; rfl
  | endless _ here _ => exact ofSource_current here
  | token here _ _ => exact ofSource_current here

private theorem fault_of_lists (lists : Lists source stream) :
    (ofSource source).faults.head? = stream.fault := by
  cases lists with
  | stopped fault found =>
    rw [ofSource_none found]
    cases fault <;> rfl
  | endless _ here again => rw [ofSource_two here again]; rfl
  | token here _ more =>
    cases more with
    | stopped fault found =>
      rw [ofSource_one here found]
      cases fault <;> rfl
    | endless _ there _ => rw [ofSource_two here there]; rfl
    | token there _ _ => rw [ofSource_two here there]; rfl

def Beside (window : Window σ) (stream : Stream) : Prop :=
  ∃ source, window = ofSource source ∧ Lists source stream

private theorem step_of_lists (lists : Lists source stream) :
    Beside (ofSource source).step stream.step := by
  cases lists with
  | stopped fault found => exact ⟨source,step_ofSource_none found,.stopped fault found⟩
  | endless eof here again => exact ⟨_,step_ofSource here,.endless eof again again⟩
  | @token _ rest lexeme tokens ending here _ more =>
    refine ⟨rest,step_ofSource here,?_⟩
    have same : (⟨lexeme :: tokens,ending⟩ : Stream).step = ⟨tokens,ending⟩ := by
      cases more with
      | stopped fault => cases fault <;> rfl
      | endless => rfl
      | token => rfl
    rw [same]
    exact more

private theorem beside_lockstep : Lockstep (Beside : Window σ → Stream → Prop) where
  current := by
    rintro _ stream ⟨source,rfl,lists⟩
    exact current_of_lists lists
  step := by
    rintro _ stream _ ⟨source,rfl,lists⟩ _ _
    exact step_of_lists lists

/-- The bound of a window leaves room for the tokens in view and for those still to be pulled. -/
theorem bound_of_lists (lists : Lists source stream) :
    8 * stream.pending + 7 ≤ Feed.bound (ofSource source) := by
  have room : stream.pending ≤ Source.extent (ofSource source).source + 2 := by
    have few := stream.pending_le_length
    cases lists with
    | stopped => exact Nat.zero_le _
    | endless => exact Nat.le_trans few (by simp)
    | @token _ _ lexeme tokens ending here _ more =>
      cases more with
      | stopped => exact Nat.le_trans few (by simp)
      | endless => exact Nat.le_trans few (by simp)
      | @token _ _ second others _ there _ more =>
        have first := Stream.pending_cons_le lexeme (second :: others) ending
        have next := Stream.pending_cons_le second others ending
        have left := more.pending
        rw [ofSource_two here there]
        dsimp only
        omega
  change _ ≤ 8 * (Source.extent (ofSource source).source + 4)
  omega

theorem parse_ofSource (lists : Lists source stream) :
    Feed.parse (ofSource source) = stream.parse := by
  have enough : run program stream = program (Feed.bound (ofSource source)) stream :=
    run_program_eq lists.steady (bound_of_lists lists)
  have agreed := program_tracks beside_lockstep (Feed.bound (ofSource source))
    ⟨source,rfl,lists⟩
  rw [← enough] at agreed
  apply Feed.parse_of_agree agreed
  rintro _ stream ⟨source,rfl,lists⟩
  exact fault_of_lists lists

end Window

private theorem items_lists (items : List (Except LexError Lexeme)) :
    Source.Lists items (Stream.ofItems items) := by
  induction items with
  | nil => exact .stopped none rfl
  | cons item items ih =>
    cases item with
    | error error => exact .stopped (some error) rfl
    | ok lexeme => exact .token rfl (fun _ => Nat.lt_succ_self _) ih

private theorem ofItems_lexemes (lexemes : List Lexeme) :
    Stream.ofItems (lexemes.map .ok) = Stream.ofLexemes lexemes := by
  induction lexemes with
  | nil => rfl
  | cons lexeme lexemes ih => simp [Stream.ofItems,ih,Stream.ofLexemes]

theorem Cursor.next_end [Alphabet] {cursor later : Cursor} {lexeme : Lexeme}
    (next : cursor.next = (.ok lexeme,later)) (eof : lexeme.token = .eof) :
    ∃ final, lexeme = endToken final ∧ later = ⟨[],final⟩ := by
  cases left : (cursor.skipWhile isBlank).rest with
  | nil =>
    rw [next_done left] at next
    obtain ⟨⟨⟩,rfl⟩ := Prod.mk.inj next
    exact ⟨cursor.final,rfl,by rw [← left]; rfl⟩
  | cons item others =>
    have inner := (next_inner left).1
    rw [next] at inner
    exact (inner lexeme rfl eof).elim

namespace Scanner
variable {ι : Type} [Characters ι] {scanner : Scanner ι} {cursor : Cursor}

private theorem takeWhile_left (keep : Char → Bool) (taken : String) (scanner : Scanner ι) :
    (scanner.takeWhile keep taken).2.left ≤ scanner.left := by
  fun_induction takeWhile keep taken scanner with
  | case1 | case3 => exact Nat.le_refl _
  | case2 _ _ _ found _ ih => exact Nat.le_trans ih (Nat.le_of_lt (left_advance found))

private theorem takeWhile_left_lt {keep : Char → Bool} {c : Char} (found : scanner.current = some c)
    (kept : keep c = true) (taken : String) :
    (scanner.takeWhile keep taken).2.left < scanner.left := by
  rw [takeWhile_some found,if_pos kept]
  exact Nat.lt_of_le_of_lt (takeWhile_left keep _ _) (left_advance found)

private theorem next_left (scanner : Scanner ι)
    (inner : ∀ lexeme, scanner.next.1 = .ok lexeme → lexeme.token ≠ .eof) :
    scanner.next.2.left < scanner.left := by
  have blanks := takeWhile_left Cursor.isBlank "" scanner
  unfold next at inner ⊢
  generalize (scanner.takeWhile Cursor.isBlank "").2 = solid at blanks inner ⊢
  refine Nat.lt_of_lt_of_le ?_ blanks
  cases found : solid.current with
  | none =>
    simp only [found] at inner
    exact (inner _ rfl rfl).elim
  | some c =>
    simp only [found]
    cases Token.symbol? c with
    | some token => exact left_advance found
    | none =>
      dsimp only
      split
      · next digit => exact takeWhile_left_lt found digit ""
      · split
        · next letter => exact takeWhile_left_lt found letter ""
        · exact left_advance found

private theorem pull_of_next {item : Except LexError Lexeme} {after : Scanner ι}
    (next : scanner.next = (item,after)) : Source.pull scanner = (some item,after) := by
  change (some scanner.next.1,scanner.next.2) = _
  rw [next]

/-- Behind the last character only the end token comes, again and again. -/
theorem Views.next_done {final : UInt32} (views : scanner.Views ⟨[],final⟩) :
    scanner.next = (.ok (Cursor.endToken final),scanner) := by
  have ended : scanner.current = none := views.current
  unfold Scanner.next
  rw [takeWhile_none ended]
  simp only [ended,views.position]
  rfl

theorem Views.lists (views : scanner.Views cursor) :
    Source.Lists scanner (Stream.ofCursor cursor) := by
  induction size : cursor.rest.length using Nat.strongRecOn generalizing scanner cursor with
  | ind size ih =>
    obtain ⟨item,after⟩ := views.next
    have shorter := cursor.next_shorter
    unfold Stream.ofCursor
    rw [Cursor.scan_eq]
    cases next : cursor.next with
    | mk found later =>
      rw [next] at item after shorter
      dsimp only at item after shorter
      have pulled := pull_of_next (Prod.ext item (Eq.refl scanner.next.2))
      cases found with
      | error error => exact .stopped (some error) pulled
      | ok lexeme =>
        dsimp only
        by_cases eof : lexeme.token = .eof
        · rw [if_pos eof]
          obtain ⟨final,rfl,rfl⟩ := Cursor.next_end next eof
          exact .endless eof pulled (pull_of_next after.next_done)
        · rw [if_neg eof]
          have fewer : later.rest.length < cursor.rest.length := by
            apply shorter
            rintro _ ⟨⟩
            exact eof
          have more := ih _ (size ▸ fewer) after rfl
          have less (_ : lexeme.token ≠ .eof) : scanner.next.2.left < scanner.left := by
            apply scanner.next_left
            rw [item]
            rintro _ ⟨⟩
            exact eof
          unfold Stream.ofCursor at more
          cases scanned : later.scan with
          | mk tokens fault =>
            rw [scanned] at more
            cases fault with
            | some error => exact .token pulled less more
            | none => exact .token pulled less more

end Scanner

/-- Whatever a program is given as, it is parsed alike through a window, with two tokens and two
characters in view, and from a stream. -/
theorem windows_parse_like_streams :
    (∀ items : List (Except LexError Lexeme),
      Feed.parse (Window.ofSource items) = (Stream.ofItems items).parse) ∧
    (∀ lexemes : List Lexeme,
      Feed.parse (Window.ofSource (lexemes.map Except.ok : List (Except LexError Lexeme))) =
        parseLexemes lexemes) ∧
    (∀ chars : List Char,
      Feed.parse (Window.ofSource (Scanner.ofPositioned (Cursor.positions 0 chars))) =
        parseChars chars) ∧
    (∀ text : String, Feed.parse (Window.ofSource (Scanner.ofText text)) = parseText text) := by
  refine ⟨fun items => ?_,fun lexemes => ?_,fun chars => ?_,fun text => ?_⟩
  · exact Window.parse_ofSource (items_lists items)
  · rw [Window.parse_ofSource (items_lists _),ofItems_lexemes]
    rfl
  · exact Window.parse_ofSource (Scanner.ofPositioned_views _).lists
  · exact Window.parse_ofSource (Scanner.ofText_views text).lists

end Scriptlet
