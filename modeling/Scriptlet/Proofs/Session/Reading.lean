import Scriptlet.Proofs.Parser.Requests
import Scriptlet.Proofs.Parser.Sources
import Scriptlet.Proofs.Text.Utf8
import Scriptlet.Session

/-! Reading a file while it is parsed. Window and scanner do nothing to a file but pull characters,
so that what a pull keeps is kept by a whole parse. They look ahead, past a fault too; a program is
accepted only when the characters have ended, and without a fault no byte is then left. -/
namespace Scriptlet
open Text

/-! What a scanner keeps. -/

namespace Scanner
variable {ι : Type} [Characters ι] {scanner : Scanner ι}

section
variable {kept : Scanner ι → Prop} (closed : ∀ scanner, kept scanner → kept scanner.advance)
include closed

private theorem takeWhile_kept (keep : Char → Bool) (taken : String) (start : kept scanner) :
    kept (scanner.takeWhile keep taken).2 := by
  fun_induction takeWhile keep taken scanner with
  | case1 | case3 => exact start
  | case2 _ _ _ _ _ ih => exact ih (closed _ start)

private theorem next_kept [Alphabet] (start : kept scanner) : kept scanner.next.2 := by
  have solid := takeWhile_kept closed Cursor.isBlank "" start
  unfold next
  generalize (scanner.takeWhile Cursor.isBlank "").2 = scanner at solid ⊢
  cases found : scanner.current with
  | none => simp only [found,solid]
  | some c =>
    simp only [found]
    cases Token.symbol? c with
    | some token => exact closed _ solid
    | none =>
      dsimp only
      split
      · exact takeWhile_kept closed Char.isDigit "" solid
      · split
        · exact takeWhile_kept closed Alphabet.letter "" solid
        · exact closed _ solid

end

private theorem advance_input (scanner : Scanner ι) :
    scanner.advance.input = (Characters.pull scanner.input).2 := by
  unfold advance
  split <;> next found => rw [found]

private theorem next_eof [Alphabet] {lexeme : Lexeme} (found : scanner.next.1 = .ok lexeme)
    (eof : lexeme.token = .eof) : scanner.next.2.current = none := by
  unfold next at found ⊢
  generalize (scanner.takeWhile Cursor.isBlank "").2 = scanner at found ⊢
  cases shown : scanner.current with
  | none => simp only [shown]
  | some c =>
    simp only [shown] at found
    cases symbol : Token.symbol? c with
    | some token =>
      rw [symbol] at found
      obtain rfl := Except.ok.inj found
      exact (Cursor.symbol_ne_eof symbol eof).elim
    | none =>
      rw [symbol] at found
      dsimp only at found
      split at found
      · obtain rfl := Except.ok.inj found
        cases eof
      · split at found
        · obtain rfl := Except.ok.inj found
          exact (Cursor.wordToken_ne_eof _ eof).elim
        · cases found

end Scanner

/-! What a whole parse keeps. -/

namespace Parser
variable {σ : Type} [Feed σ] {feed rest : σ}

private theorem statements_stops {bound : Nat} {content : List Statement}
    (ran : statements bound feed = .ok content rest) : Feed.notEof rest = false := by
  induction bound generalizing feed content with
  | zero => cases ran
  | succ bound ih =>
    rw [statements,Production.statements,Feed.notEof_bind] at ran
    cases more : Feed.notEof feed with
    | false =>
      rw [more] at ran
      obtain ⟨_,rfl⟩ := EStateM.Result.ok.inj ran
      exact more
    | true =>
      rw [more] at ran
      obtain ⟨_,_,_,ran⟩ := Feed.bind_ok.mp ran
      obtain ⟨_,_,others,ran⟩ := Feed.bind_ok.mp ran
      obtain ⟨_,rfl⟩ := EStateM.Result.ok.inj ran
      exact ih others

/-- A program is accepted only in front of an end, and only if no fault came into view. -/
theorem whole_stops {program : Program} (ran : whole feed = .ok program rest) :
    Feed.notEof rest = false ∧ Feed.fault rest = none := by
  unfold whole Production.whole at ran
  cases found : run Parser.program feed with
  | error reason after => cases seen : Feed.fault after <;> simp [found,seen] at ran
  | ok content after =>
    cases seen : Feed.fault after with
    | some error => simp [found,seen] at ran
    | none =>
      simp only [found,seen] at ran
      obtain ⟨rfl,rfl⟩ := EStateM.Result.ok.inj ran
      have bounded : program (Feed.bound feed) feed = .ok content after := found
      rw [program,Production.program] at bounded
      obtain ⟨_,_,inner,done⟩ := Feed.bind_ok.mp bounded
      obtain ⟨_,rfl⟩ := EStateM.Result.ok.inj done
      exact ⟨statements_stops inner,seen⟩

end Parser

namespace Window
variable {σ : Type} [Source σ]

private theorem pull_cases (window : Window σ) :
    (window.exhausted = true ∧ window.pull = (none,window)) ∨
    (∃ lexeme source, Source.pull window.source = (some (.ok lexeme),source) ∧
      window.pull = (some lexeme,{window with source := source})) ∨
    ∃ (fault : Option LexError) (source : σ),
      Source.pull window.source = (fault.map .error,source) ∧ window.pull = (none,
        {window with
          faults := window.faults ++ fault.toList,source := source,exhausted := true}) := by
  unfold pull
  cases ended : window.exhausted with
  | true => exact .inl ⟨rfl,rfl⟩
  | false =>
    rcases Source.pull_cases window.source with ⟨lexeme,source,found⟩ | ⟨fault,source,found⟩
    · exact .inr (.inl ⟨lexeme,source,found,by simp [found]⟩)
    · refine .inr (.inr ⟨fault,source,found,?_⟩)
      cases fault <;> simp [found]

section
variable {kept : σ → Prop} (pulls : ∀ source, kept source → kept (Source.pull source).2)
include pulls

private theorem step_kept (window : Window σ) (start : kept window.source) :
    kept window.step.source := by
  have next := pulls _ start
  change kept window.pull.2.source
  rcases window.pull_cases with ⟨_,same⟩ | ⟨_,_,found,same⟩ | ⟨_,_,found,same⟩
  · rwa [same]
  all_goals
    rw [found] at next
    rwa [same]

private theorem whole_source {source : σ} (start : kept source) :
    kept (Parser.after Parser.whole (ofSource source)).source := by
  have open' := step_kept pulls ⟨none,none,[],source,false⟩ start
  exact Parser.whole_kept (step_kept pulls) (step_kept pulls _ open')

end
end Window

/-! What is left of a file. -/

private theorem fromUTF8?_text (text : String) : String.fromUTF8? text.toByteArray = some text :=
  dif_pos text.isValidUTF8

private theorem eq_of_fromUTF8? {bytes : ByteArray} {text : String}
    (read : String.fromUTF8? bytes = some text) : bytes = text.toByteArray := by
  unfold String.fromUTF8? at read
  split at read
  · obtain rfl := Option.some.inj read
    rfl
  · cases read

namespace Gatherer
variable [Decoder] {gatherer : Gatherer}

private theorem pull_cases (gatherer : Gatherer) :
    (Decoder.read gatherer.bytes = none ∧ gatherer.pull = (none,gatherer)) ∨
    (∃ c rest, Decoder.read gatherer.bytes = some (.ok c,rest) ∧
      gatherer.pull = (some (gatherer.position,c),⟨rest,gatherer.text.push c,gatherer.fault,
        gatherer.position + Cursor.room c⟩)) ∨
    ∃ fault rest, Decoder.read gatherer.bytes = some (.error fault,rest) ∧
      gatherer.pull = (none,{gatherer with bytes := rest,fault := some fault}) := by
  unfold pull
  cases found : Decoder.read gatherer.bytes with
  | none => exact .inl ⟨rfl,rfl⟩
  | some next =>
    obtain ⟨item,rest⟩ := next
    cases item with
    | ok c => exact .inr (.inl ⟨c,rest,rfl,rfl⟩)
    | error fault => exact .inr (.inr ⟨fault,rest,rfl,rfl⟩)

/-- No byte is left, unless a fault was met. -/
def Drained (gatherer : Gatherer) : Prop := gatherer.fault = none → gatherer.bytes = []

private theorem read_nil : Decoder.read [] = none := by
  cases found : Decoder.read [] with
  | none => rfl
  | some next => exact (Nat.not_lt_zero _ (Decoder.shorter found)).elim

private theorem pull_nil (left : gatherer.bytes = []) : gatherer.pull = (none,gatherer) := by
  rw [pull,left,read_nil]

private theorem Drained.pull (drained : gatherer.Drained) : gatherer.pull.2.Drained := by
  rcases gatherer.pull_cases with ⟨_,same⟩ | ⟨c,rest,found,same⟩ | ⟨fault,rest,_,same⟩
  · rwa [same]
  · rw [same]
    intro faultless
    rw [drained faultless,read_nil] at found
    cases found
  · rw [same]
    nofun

private theorem drained_of_none (documented : Decoder.Documented)
    (ended : gatherer.pull.1 = none) : gatherer.pull.2.Drained := by
  rcases gatherer.pull_cases with ⟨nothing,same⟩ | ⟨c,rest,_,same⟩ | ⟨fault,rest,_,same⟩
  · rw [same]
    exact fun _ => documented.ended nothing
  · rw [same] at ended
    cases ended
  · rw [same]
    nofun

end Gatherer

section
variable [Decoder]

/-- A scanner that sees no more characters has drained its file. -/
structure Scanner.Tight (scanner : Scanner Gatherer) : Prop where
  current : scanner.current = none → scanner.input.Drained
  ahead : scanner.ahead = none → scanner.input.Drained

namespace Scanner
variable (documented : Decoder.Documented) {scanner : Scanner Gatherer}
include documented

private theorem advance_ahead (ended : scanner.advance.ahead = none) :
    scanner.advance.input.Drained := by
  rw [advance_input]
  apply Gatherer.drained_of_none documented
  unfold advance at ended
  split at ended
  · cases ended
  · next found => exact congrArg Prod.fst found

omit documented in
private theorem advance_drained (drained : scanner.input.Drained) :
    scanner.advance.input.Drained := by
  rw [advance_input]
  exact drained.pull

omit documented in
private theorem advance_current : scanner.advance.current = scanner.ahead := by
  unfold advance
  split <;> rfl

private theorem advance_tight (scanner : Scanner Gatherer)
    (seen : scanner.ahead = none → scanner.input.Drained) : scanner.advance.Tight where
  current ended := advance_drained (seen (advance_current.symm.trans ended))
  ahead := advance_ahead documented

private theorem ofInput_tight (gatherer : Gatherer) : (ofInput gatherer).Tight :=
  advance_tight documented _ (advance_ahead documented)

private theorem next_tight [Alphabet] (tight : scanner.Tight) : scanner.next.2.Tight :=
  next_kept (fun scanner tight => advance_tight documented scanner tight.ahead) tight

end Scanner

namespace Window
variable {window : Window (Scanner Gatherer)}

def Ends (window : Window (Scanner Gatherer)) (shown : Option Lexeme) : Prop :=
  (∀ lexeme ∈ shown, lexeme.token = .eof) → window.faults = [] → window.source.input.Drained

structure Wary (window : Window (Scanner Gatherer)) : Prop where
  scanner : window.source.Tight
  exhausted : window.exhausted = true → window.faults ≠ []

structure Tight (window : Window (Scanner Gatherer)) : Prop extends window.Wary where
  current : window.Ends window.current
  next : window.Ends window.next

variable (documented : Decoder.Documented)
include documented

private theorem pull_tight (wary : window.Wary) : window.pull.2.Wary ∧
    window.pull.2.Ends window.pull.1 ∧ ∀ shown, window.Ends shown → window.pull.2.Ends shown := by
  have tight := Scanner.next_tight documented wary.scanner
  have later (drained : window.source.input.Drained) : window.source.next.2.input.Drained := by
    have closed (scanner : Scanner Gatherer) (drained : scanner.input.Drained) :
      scanner.advance.input.Drained := Scanner.advance_drained drained
    exact Scanner.next_kept closed drained
  rcases window.pull_cases with
    ⟨ended,same⟩ | ⟨lexeme,source,found,same⟩ | ⟨fault,source,found,same⟩
  · rw [same]
    exact ⟨wary,fun _ clear => (wary.exhausted ended clear).elim,fun _ => id⟩
  · obtain ⟨given,rfl⟩ := Prod.mk.inj found
    have item : window.source.next.1 = .ok lexeme := Option.some.inj given
    rw [same]
    refine ⟨⟨tight,wary.exhausted⟩,?_,fun shown ends eof clear => later (ends eof clear)⟩
    intro eof _
    exact tight.current (Scanner.next_eof item (eof lexeme rfl))
  · obtain ⟨given,rfl⟩ := Prod.mk.inj found
    cases fault with
    | none => cases given
    | some error =>
      rw [same]
      have failed : window.faults ++ (some error).toList ≠ [] := by simp
      exact ⟨⟨tight,fun _ => failed⟩,fun _ clear => (failed clear).elim,
        fun _ _ _ clear => (failed clear).elim⟩

private theorem step_tight (window : Window (Scanner Gatherer)) (wary : window.Wary)
    (next : window.Ends window.next) : window.step.Tight := by
  obtain ⟨wary,shown,kept⟩ := pull_tight documented wary
  have same : window.pull.2.next = window.next := by
    rcases window.pull_cases with ⟨_,same⟩ | ⟨_,_,_,same⟩ | ⟨_,_,_,same⟩ <;> rw [same]
  refine ⟨⟨wary.scanner,wary.exhausted⟩,?_,shown⟩
  change window.pull.2.Ends window.pull.2.next
  rw [same]
  exact kept _ next

private theorem ofSource_tight (gatherer : Gatherer) :
    (ofSource (Scanner.ofInput gatherer)).Tight := by
  let fresh : Window (Scanner Gatherer) := ⟨none,none,[],Scanner.ofInput gatherer,false⟩
  have wary : fresh.Wary := ⟨Scanner.ofInput_tight documented gatherer,nofun⟩
  -- The first pull fills only the second place.
  obtain ⟨once,shown,_⟩ := pull_tight documented wary
  exact step_tight documented _ ⟨once.scanner,once.exhausted⟩ shown

end Window

/-! What the parser leaves of a file. -/

namespace Session
variable {bytes : List UInt8}

private theorem readProgram_rest (bytes : List UInt8) : (readProgram bytes).2 =
    (Parser.after Parser.whole
      (Window.ofSource (Scanner.ofInput (Gatherer.ofBytes bytes)))).source.input := by
  unfold readProgram Parser.after
  split <;> next ran => rw [ran]

/-- What every pull keeps, the parser keeps. -/
theorem readProgram_kept {kept : Gatherer → Prop}
    (pulls : ∀ gatherer, kept gatherer → kept gatherer.pull.2)
    (start : kept (Gatherer.ofBytes bytes)) : kept (readProgram bytes).2 := by
  have advances (scanner : Scanner Gatherer) (held : kept scanner.input) :
      kept scanner.advance.input := by
    rw [Scanner.advance_input]
    exact pulls _ held
  have items (scanner : Scanner Gatherer) (held : kept scanner.input) :
      kept (Source.pull scanner).2.input := Scanner.next_kept advances held
  rw [readProgram_rest]
  exact Window.whole_source items (advances _ (advances _ start))

variable (documented : Decoder.Documented)
include documented

/-- A program is accepted only when all bytes were read, or when a fault was met. -/
theorem readProgram_drained {program : Program} (accepted : (readProgram bytes).1 = .ok program) :
    (readProgram bytes).2.Drained := by
  have tight := Window.ofSource_tight documented (Gatherer.ofBytes bytes)
  have closed (window : Window (Scanner Gatherer)) (tight : window.Tight) : window.step.Tight :=
    Window.step_tight documented window tight.toWary tight.next
  have kept := Parser.whole_kept closed tight
  rw [readProgram_rest]
  unfold readProgram at accepted
  unfold Parser.after at kept ⊢
  split at accepted
  · next _ window ran =>
    rw [ran] at kept ⊢
    obtain ⟨stopped,clear⟩ := Parser.whole_stops ran
    refine kept.current ?_ (List.head?_eq_none_iff.mp clear)
    intro lexeme (shown : Feed.current window = some lexeme)
    have ended := Feed.notEof_of_current shown
    rw [stopped] at ended
    simpa using ended.symm
  · cases accepted

end Session

/-! What was gathered. -/

namespace Gatherer
variable {bytes : List UInt8} {text : String} {gatherer : Gatherer}

/-- Without a fault, what was read and what is left make up the bytes. -/
def Of (bytes : List UInt8) (gatherer : Gatherer) : Prop :=
  gatherer.fault = none → encode gatherer.text.toList ++ gatherer.bytes = bytes

/-- No fault was met, and what was read and what is left make up the text. -/
def Within (text : String) (gatherer : Gatherer) : Prop :=
  gatherer.fault = none ∧ ∃ rest, gatherer.bytes = encode rest ∧
    gatherer.text ++ String.ofList rest = text

variable (documented : Decoder.Documented)
include documented

private theorem pull_encode (c : Char) (chars : List Char)
    (left : gatherer.bytes = encode (c :: chars)) :
    gatherer.pull = (some (gatherer.position,c),⟨encode chars,gatherer.text.push c,gatherer.fault,
      gatherer.position + Cursor.room c⟩) := by
  have front : encode (c :: chars) = String.utf8EncodeChar c ++ encode chars := List.flatMap_cons
  rw [pull,left,front,documented.reads]

private theorem delivers_encode {chars : List Char} (left : gatherer.bytes = encode chars) :
    Delivers gatherer (Cursor.positions gatherer.position chars) := by
  induction chars generalizing gatherer with
  | nil => exact .done (pull_nil left)
  | cons c chars ih => exact .more (pull_encode documented c chars left) (ih rfl)

private theorem of_pull (gatherer : Gatherer) (of : gatherer.Of bytes) :
    gatherer.pull.2.Of bytes := by
  rcases gatherer.pull_cases with ⟨_,same⟩ | ⟨c,rest,found,same⟩ | ⟨fault,rest,_,same⟩
  · rwa [same]
  · rw [same]
    intro faultless
    rw [← of faultless,documented.encoded found]
    simp [encode]
  · rw [same]
    intro faultless
    cases faultless

private theorem within_pull (gatherer : Gatherer) (within : gatherer.Within text) :
    gatherer.pull.2.Within text := by
  obtain ⟨faultless,rest,left,whole⟩ := within
  cases rest with
  | nil =>
    rw [pull_nil left]
    exact ⟨faultless,[],left,whole⟩
  | cons c rest =>
    rw [pull_encode documented c rest left]
    refine ⟨faultless,rest,rfl,?_⟩
    rw [← whole,String.ofList_cons,String.push_eq_append,String.append_assoc]

end Gatherer

/-! The program and the text of a file. -/

namespace Session
open Gatherer

variable (documented : Decoder.Documented) {bytes : List UInt8}
include documented

private theorem readProgram_encode (text : String) :
    (readProgram (encode text.toList)).1 = parseText text := by
  have start : (ofBytes (encode text.toList)).bytes = encode text.toList := rfl
  have delivers := delivers_encode documented start
  have parsed := Window.parse_ofSource (Scanner.ofInput_views delivers).lists
  rw [parseText,Stream.ofText,Cursor.ofText_eq]
  refine Eq.trans ?_ parsed
  unfold readProgram Feed.parse
  split <;> next ran => rw [ran]

/-- A file that holds a text gives its program with the whole text, or the error of the text. -/
theorem parseBytes_text (path : String) {text : String}
    (encoded : bytes.toByteArray = text.toByteArray) :
    parseBytes path bytes = match parseText text with
      | .ok program => .ok (program,text)
      | .error error => .error (.parse path text error) := by
  obtain rfl := encode_text encoded
  have start : (ofBytes (encode text.toList)).Within text := ⟨rfl,text.toList,rfl,by simp [ofBytes]⟩
  obtain ⟨faultless,rest,left,whole⟩ := readProgram_kept (within_pull documented) start
  have drained (program : Program) (accepted : parseText text = .ok program) :=
    readProgram_drained documented ((readProgram_encode documented text).trans accepted) faultless
  unfold parseBytes
  rw [← readProgram_encode documented text] at drained ⊢
  generalize readProgram (encode text.toList) = result at *
  obtain ⟨parsed,gathered⟩ := result
  dsimp only at *
  rw [faultless]
  cases parsed with
  | ok program =>
    cases rest with
    | nil =>
      obtain rfl : gathered.text = text := by simpa using whole
      rfl
    | cons c rest =>
      have found := pull_encode documented c rest left
      rw [pull_nil (drained program rfl)] at found
      cases found
  | error error =>
    dsimp only
    rw [left,encode_toByteArray,fromUTF8?_text]
    dsimp only
    rw [whole]

omit documented [Decoder] in
private theorem ioFault_cases (fault : DecodeFault) :
    ioFault fault = .invalidData ∨ ioFault fault = .unexpectedEof := by
  cases fault with
  | malformed => exact .inl rfl
  | truncated => exact .inr rfl

/-- A file that holds no text is not accepted, wherever the parser has stopped. -/
theorem parseBytes_invalid (path : String) (invalid : ¬bytes.toByteArray.IsValidUTF8) : ∃ fault,
    (fault = .invalidData ∨ fault = .unexpectedEof) ∧
      parseBytes path bytes = .error (.io fault) := by
  have start : (ofBytes bytes).Of bytes := fun _ => rfl
  have of := readProgram_kept (of_pull documented) start
  have drained (program : Program) (accepted : (readProgram bytes).1 = .ok program) :=
    readProgram_drained documented accepted
  unfold parseBytes
  generalize readProgram bytes = result at *
  obtain ⟨parsed,gathered⟩ := result
  dsimp only at *
  -- The fault was met, or else the rest cannot be read for the report.
  cases met : gathered.fault with
  | some fault => exact ⟨ioFault fault,ioFault_cases fault,rfl⟩
  | none =>
    have whole := of met
    cases parsed with
    | ok program =>
      rw [drained program rfl met,List.append_nil] at whole
      exact (invalid (whole ▸ encode_valid _)).elim
    | error error =>
      dsimp only
      cases read : String.fromUTF8? gathered.bytes.toByteArray with
      | none => exact ⟨.invalidData,.inl rfl,rfl⟩
      | some rest =>
        have written := encode_text (eq_of_fromUTF8? read)
        rw [written,encode,encode,← List.flatMap_append] at whole
        exact (invalid (whole ▸ encode_valid _)).elim

end Session
end
end Scriptlet
