import Scriptlet.Proofs.Parser.Carried

/-! Where and why a parser gives up. It takes tokens as long as they can be completed to the
phrase it looks for, and gives up at the first one that cannot go on, whatever stands behind
it. -/
namespace Scriptlet.Parser
open Grammar Scriptlet.Stream

variable {α β : Type} {stream other middle rest : Stream} {reason : ParseError} {bound : Nat}

theorem bind_error {first : Parser α} {next : α → Parser β} :
    (first >>= next) stream = .error reason rest ↔ first stream = .error reason rest ∨
      ∃ value middle, first stream = .ok value middle ∧ next value middle = .error reason rest := by
  cases outcome : first stream with
  | ok value middle => simp [bind_of_ok outcome]
  | error failure middle => simp [bind_of_error outcome]

theorem bind_pure_error {first : Parser α} {build : α → β} :
    (first >>= fun value => pure (build value)) stream = .error reason rest ↔
      first stream = .error reason rest := by
  rw [bind_error]
  simp [pure_run]

/-- Which token a failure is about, and what stands before it. Only a constant without a value
is reported at the name in front of the token. -/
inductive Blames : ParseError → List Lexeme → Lexeme → Prop where
  | ident {before kind span} : Blames ⟨.expectedIdent,span⟩ before ⟨kind,span⟩
  | ending {before span} : Blames ⟨.unexpectedEof,span⟩ before ⟨.eof,span⟩
  | token {before kind span expected} (inner : kind ≠ .eof) :
      Blames ⟨.unexpectedToken kind expected,span⟩ before ⟨kind,span⟩
  | number {before digits span} : Blames ⟨.invalidNumber digits,span⟩ before ⟨.number digits,span⟩
  | constant {before name span place} :
      Blames ⟨.missingConstValue,span⟩ (before ++ [⟨.ident name,span⟩]) ⟨.semicolon,place⟩

private theorem Blames.prepend {before : List Lexeme} {offending : Lexeme}
    (blamed : Blames reason before offending) (front : List Lexeme) :
    Blames reason (front ++ before) offending := by
  cases blamed with
  | ident => exact .ident
  | ending => exact .ending
  | token inner => exact .token inner
  | number => exact .number
  | constant =>
    rw [← List.append_assoc]
    exact .constant

/-- The parser gives up at a token, with what is said of the tokens before it, and no token
behind it makes a difference. -/
def Breaks (parser : Parser α) (stream : Stream) (reason : ParseError)
    (viable : List Lexeme → Prop) : Prop :=
  ∃ before offending behind, stream.tokens = before ++ offending :: behind ∧
    Blames reason before offending ∧ viable before ∧
    ∀ other behind', other.tokens = before ++ offending :: behind' →
      ∃ rest, parser other = .error reason rest

section
variable {viable wider : List Lexeme → Prop}

theorem Breaks.mono {parser : Parser α} (breaks : Breaks parser stream reason viable)
    (weaker : ∀ before offending behind, stream.tokens = before ++ offending :: behind →
      viable before → wider before) : Breaks parser stream reason wider := by
  obtain ⟨before,offending,behind,whole,blamed,holds,same⟩ := breaks
  exact ⟨before,offending,behind,whole,blamed,weaker before offending behind whole holds,same⟩

theorem Breaks.first {first : Parser α} (breaks : Breaks first stream reason viable)
    (next : α → Parser β) : Breaks (first >>= next) stream reason viable := by
  obtain ⟨before,offending,behind,whole,blamed,holds,same⟩ := breaks
  refine ⟨before,offending,behind,whole,blamed,holds,?_⟩
  intro other behind' held
  obtain ⟨rest',failed⟩ := same other behind' held
  exact ⟨rest',bind_of_error failed⟩

theorem Breaks.alike {again parser : Parser α} (breaks : Breaks again stream reason viable)
    (same : ∀ other, other.current = stream.current → parser other = again other) :
    Breaks parser stream reason viable := by
  obtain ⟨before,offending,behind,whole,blamed,holds,fails⟩ := breaks
  refine ⟨before,offending,behind,whole,blamed,holds,?_⟩
  intro other behind' held
  obtain ⟨rest',failed⟩ := fails other behind' held
  have shown : other.current = stream.current := by
    simp only [current,held,whole]
    cases before <;> rfl
  exact ⟨rest',(same other shown).trans failed⟩

end

/-! A parser that succeeds does so whatever stands behind the token it stops at. -/

/-- The parser does the same on every stream with the tokens up to where it stops, and the one
there. -/
def Steers (first : Parser α) (stream : Stream) (value : α) (middle : Stream) : Prop :=
  ∀ ⦃seam : Seam⦄ ⦃other : Stream⦄, seam.offset = 0 → seam.Same → seam.Joins stream other →
    seam.Reaches True middle → ∃ middle', first other = .ok value middle' ∧
      seam.Joins middle middle'

private theorem Steers.of_carries {first : Parser α} {value : α} {free : Seam → Prop}
    {move : Seam → α → α} {second : Seam → Parser α}
    (carries : ∀ seam, Carries seam (free seam) (move seam) first (second seam))
    (loose : ∀ seam, seam.Same → free seam)
    (still : ∀ seam : Seam, seam.offset = 0 → second seam = first ∧ move seam value = value)
    (ok : first stream = .ok value middle) : Steers first stream value middle := by
  intro seam other fixed same joined reached
  obtain ⟨middle',ok',joined'⟩ := carries seam joined ok (reached.mono fun _ => loose seam same)
  obtain ⟨again,unmoved⟩ := still seam fixed
  exact ⟨middle',again ▸ unmoved ▸ ok',joined'⟩

theorem Breaks.after {first : Parser α} {next : α → Parser β} {value : α} {lexemes : List Lexeme}
    {viable : List Lexeme → Prop} (steered : Steers first stream value middle)
    (whole : stream.tokens = lexemes ++ middle.tokens) (steady : stream.Steady)
    (breaks : Breaks (next value) middle reason viable) :
    Breaks (first >>= next) stream reason
      (fun before => ∃ inner, before = lexemes ++ inner ∧ viable inner) := by
  obtain ⟨before,offending,behind,held,blamed,holds,same⟩ := breaks
  refine ⟨lexemes ++ before,offending,behind,by simp [whole,held],blamed.prepend lexemes,
    ⟨before,rfl,holds⟩,?_⟩
  intro other behind' held'
  -- The seam is the offending token itself; the first parser has stopped there or before it.
  let seam : Seam := ⟨0,offending,behind,offending,behind',other.ending⟩
  have unmoved : Lexeme.push seam.offset = id := Lexeme.push_zero
  have joined : seam.Joins stream other := by
    refine ⟨steady,lexemes ++ before,by simp [whole,held,seam],?_⟩
    obtain ⟨_,_⟩ := other
    simp only [unmoved,List.map_id,Stream.mk.injEq]
    exact ⟨held',rfl⟩
  have reached : seam.Reaches True middle := by
    have counted : middle.tokens.length = before.length + (seam.behind.length + 1) := by
      simp [held,seam]
    rcases Nat.eq_zero_or_pos before.length with none | some
    · exact .inr ⟨trivial,by omega⟩
    · exact .inl (by unfold Seam.Inside; omega)
  have alike : seam.Same := rfl
  obtain ⟨middle',ok',_,front,here,there⟩ := steered rfl alike joined reached
  have found : front = before := List.append_cancel_right (here.symm.trans held)
  obtain ⟨rest',failed⟩ := same middle' behind' (by simp [there,unmoved,found,seam])
  exact ⟨rest',(bind_of_ok ok').trans failed⟩

/-! Failures that leave something to be completed. -/

def Exhausted (stream rest : Stream) : Prop :=
  rest.tokens = [] ∧ rest.ending = stream.ending ∧ rest.Steady

theorem Exhausted.after {tokens : List Token} (exhausted : Exhausted middle rest)
    (taken : stream.Takes tokens middle) : Exhausted stream rest := by
  obtain ⟨_,_,_,_,ending,_⟩ := taken
  exact ⟨exhausted.1,exhausted.2.1.trans ending,exhausted.2.2⟩

def Completable (completes : List Token → Prop) (before : List Lexeme) : Prop :=
  ∃ more, completes (before.map (·.token) ++ more)

def Halts (parser : Parser α) (stream : Stream) (reason : ParseError) (rest : Stream)
    (completes : List Token → Prop) : Prop :=
  Exhausted stream rest ∨ Breaks parser stream reason (Completable completes)

section
variable {completes wider : List Token → Prop}

theorem Halts.mono {parser : Parser α} (halted : Halts parser stream reason rest completes)
    (grown : ∀ tokens, completes tokens → ∃ more, wider (tokens ++ more)) :
    Halts parser stream reason rest wider := by
  refine halted.imp id fun breaks => breaks.mono ?_
  rintro before _ _ _ ⟨more,complete⟩
  obtain ⟨further,complete⟩ := grown _ complete
  exact ⟨more ++ further,by simpa using complete⟩

theorem Halts.first {first : Parser α} (halted : Halts first stream reason rest completes)
    (next : α → Parser β) : Halts (first >>= next) stream reason rest completes :=
  halted.imp id fun breaks => breaks.first next

theorem Halts.alike {again parser : Parser α} (halted : Halts again stream reason rest completes)
    (same : ∀ other, other.current = stream.current → parser other = again other) :
    Halts parser stream reason rest completes := halted.imp id fun breaks => breaks.alike same

def Behind (tokens : List Token) (completes : List Token → Prop) (whole : List Token) : Prop :=
  ∃ inner, completes inner ∧ whole = tokens ++ inner

theorem Halts.after {first : Parser α} {next : α → Parser β} {value : α} {tokens : List Token}
    (steered : Steers first stream value middle) (taken : stream.Takes tokens middle)
    (steady : stream.Steady) (halted : Halts (next value) middle reason rest completes) :
    Halts (first >>= next) stream reason rest (Behind tokens completes) := by
  rcases halted with exhausted | breaks
  · exact .inl (exhausted.after taken)
  · obtain ⟨lexemes,rfl,_,whole,_⟩ := taken
    refine .inr ((breaks.after steered whole steady).mono ?_)
    rintro _ _ _ _ ⟨inner,rfl,more,complete⟩
    exact ⟨more,_,complete,by simp⟩

end

private theorem still_expr {seam : Seam} (fixed : seam.offset = 0) (tree : Expr) :
    tree.mapSpans seam.move = tree := by
  rw [Seam.move,fixed,Span.push_zero,Expr.mapSpans_id]

private theorem still_property {seam : Seam} (fixed : seam.offset = 0) (tree : Property) :
    tree.mapSpans seam.move = tree := by
  rw [Seam.move,fixed,Span.push_zero,Property.mapSpans_id]

section
variable {tree left : Expr}

theorem expression_steers (ok : expression bound stream = .ok tree middle) :
    Steers (expression bound) stream tree middle :=
  .of_carries (fun seam => (carried seam bound).expression) (fun _ => .inl)
    (fun _ fixed => ⟨rfl,still_expr fixed tree⟩) ok

theorem assignee_steers (ok : assignee bound stream = .ok tree middle) :
    Steers (assignee bound) stream tree middle :=
  .of_carries (fun seam => (carried seam bound).assignee) (fun _ => .inl)
    (fun _ fixed => ⟨rfl,still_expr fixed tree⟩) ok

theorem properties_steers {trees : List Property}
    (ok : properties bound stream = .ok trees middle) :
    Steers (properties bound) stream trees middle := by
  refine .of_carries (fun seam => (carried seam bound).properties) (fun _ => id) ?_ ok
  intro seam fixed
  have still : Property.mapSpans seam.move = id := funext (still_property fixed)
  exact ⟨rfl,by rw [still,List.map_id]⟩

theorem property_steers {property : Property}
    (ok : Parser.property bound stream = .ok property middle) :
    Steers (Parser.property bound) stream property middle :=
  .of_carries (fun seam => (carried seam bound).property) (fun _ => id)
    (fun _ fixed => ⟨rfl,still_property fixed property⟩) ok

theorem operation_steers (ok : operation bound left stream = .ok tree middle) :
    Steers (operation bound left) stream tree middle :=
  .of_carries (fun seam => (carried seam bound).operation left) (fun _ => .inl)
    (fun _ fixed => ⟨by rw [still_expr fixed],still_expr fixed tree⟩) ok

theorem calls_steers (ok : calls bound stream = .ok tree middle) :
    Steers (calls bound) stream tree middle :=
  .of_carries (fun seam => (carried seam bound).calls) (fun _ => .inl)
    (fun _ fixed => ⟨rfl,still_expr fixed tree⟩) ok

theorem call_steers (ok : call bound left stream = .ok tree middle) :
    Steers (call bound left) stream tree middle :=
  .of_carries (fun seam => (carried seam bound).call left) (fun _ => .inl)
    (fun _ fixed => ⟨by rw [still_expr fixed],still_expr fixed tree⟩) ok

theorem arguments_steers {trees : List Expr} (ok : arguments bound stream = .ok trees middle) :
    Steers (arguments bound) stream trees middle := by
  refine .of_carries (fun seam => (carried seam bound).arguments) (fun _ => id) ?_ ok
  intro seam fixed
  have still : Expr.mapSpans seam.move = id := funext (still_expr fixed)
  exact ⟨rfl,by rw [still,List.map_id]⟩

theorem members_steers (ok : members bound stream = .ok tree middle) :
    Steers (members bound) stream tree middle :=
  .of_carries (fun seam => (carried seam bound).members) (fun _ => .inl)
    (fun _ fixed => ⟨rfl,still_expr fixed tree⟩) ok

theorem member_steers (ok : member bound left stream = .ok tree middle) :
    Steers (member bound left) stream tree middle :=
  .of_carries (fun seam => (carried seam bound).member left) (fun _ => .inl)
    (fun _ fixed => ⟨by rw [still_expr fixed],still_expr fixed tree⟩) ok

theorem primary_steers (ok : primary bound stream = .ok tree middle) :
    Steers (primary bound) stream tree middle :=
  .of_carries (fun seam => (carried seam bound).primary) (fun _ => .inl)
    (fun _ fixed => ⟨rfl,still_expr fixed tree⟩) ok

end

/-! Single tokens. -/

section
variable {token : Token} {span : Span} (steady : stream.Steady)
include steady

private theorem takes_joined {seam : Seam} (fixed : seam.offset = 0)
    (joined : seam.Joins stream other)
    (found : stream.current = some ⟨token,span⟩) (inner : token ≠ .eof)
    (reached : seam.Reaches True stream.step) :
    other.current = some ⟨token,span⟩ ∧ seam.Joins stream.step other.step := by
  have inside := reached.inside (.one steady found inner)
  obtain ⟨found',joined'⟩ := joined.take inside found inner
  exact ⟨by rw [found',Seam.move,fixed,Span.push_zero]; rfl,joined'⟩

theorem step_steers (found : stream.current = some ⟨token,span⟩) (inner : token ≠ .eof) :
    Steers step stream () stream.step := by
  intro seam other fixed _ joined reached
  obtain ⟨_,joined'⟩ := takes_joined steady fixed joined found inner reached
  exact ⟨other.step,rfl,joined'⟩

theorem take_steers (found : stream.current = some ⟨token,span⟩) (inner : token ≠ .eof) :
    Steers take stream (some ⟨token,span⟩) stream.step := by
  intro seam other fixed _ joined reached
  obtain ⟨found',joined'⟩ := takes_joined steady fixed joined found inner reached
  exact ⟨other.step,by rw [← found']; rfl,joined'⟩

theorem expectToken_steers (found : stream.current = some ⟨token,span⟩) (inner : token ≠ .eof) :
    Steers (expectToken token) stream span stream.step := by
  intro seam other fixed _ joined reached
  obtain ⟨found',joined'⟩ := takes_joined steady fixed joined found inner reached
  exact ⟨other.step,expectToken_ok.mpr ⟨found',rfl⟩,joined'⟩

theorem expectIdent_steers {name : String} (found : stream.current = some ⟨.ident name,span⟩) :
    Steers expectIdent stream ⟨name,span⟩ stream.step := by
  intro seam other fixed _ joined reached
  obtain ⟨found',joined'⟩ := takes_joined steady fixed joined found (by simp) reached
  exact ⟨other.step,expectIdent_ok.mpr ⟨found',rfl⟩,joined'⟩

theorem operator_steers {sign : Operator} (found : stream.current = some ⟨.operator sign,span⟩) :
    Steers operator stream sign stream.step := by
  intro seam other fixed _ joined reached
  obtain ⟨found',joined'⟩ := takes_joined steady fixed joined found (by simp) reached
  exact ⟨other.step,operator_ok.mpr ⟨span,found',rfl⟩,joined'⟩

theorem exhausted_of_current (none : stream.current = none) : Exhausted stream stream :=
  ⟨by simpa [current] using none,rfl,steady⟩

omit steady in
/-- A parser that gives up at the current token. -/
theorem halts_here {parser : Parser α} {completes : List Token → Prop} {lexeme : Lexeme}
    (found : stream.current = some lexeme) (blamed : Blames reason [] lexeme)
    (viable : ∃ tokens, completes tokens)
    (fails : ∀ other, other.current = some lexeme → ∃ rest, parser other = .error reason rest) :
    Halts parser stream reason rest completes := by
  obtain ⟨behind,whole⟩ : ∃ behind, stream.tokens = lexeme :: behind := by
    cases held : stream.tokens with
    | nil => simp [current,held] at found
    | cons first behind => exact ⟨behind,by simpa [current,held] using found⟩
  refine .inr ⟨[],lexeme,behind,whole,blamed,viable,?_⟩
  intro other behind' held
  exact fails other (by simp [current,held])

theorem expectToken_halts (failed : expectToken token stream = .error reason rest) :
    Halts (expectToken token) stream reason rest (· = [token]) := by
  rw [expectToken,peek_bind] at failed
  cases found : stream.current with
  | none =>
    simp only [found,failAtEnd_run,EStateM.Result.error.injEq] at failed
    exact .inl (failed.2 ▸ exhausted_of_current steady found)
  | some lexeme =>
    simp only [found] at failed
    split at failed
    · cases failed
    · next other =>
      have here (stream : Stream) (found : stream.current = some lexeme) :
          expectToken token stream = .error reason stream := by
        rw [expectToken,peek_bind,found]
        simp only [other,if_false]
        split at failed <;> simp_all [fail_run,unexpected_run]
      have blamed : Blames reason [] lexeme := by
        split at failed
        · next final =>
          obtain ⟨rfl,_⟩ := EStateM.Result.error.inj failed
          obtain ⟨_,_⟩ := lexeme
          obtain rfl := final
          exact .ending
        · next inner =>
          obtain ⟨rfl,_⟩ := EStateM.Result.error.inj failed
          exact .token inner
      exact halts_here found blamed ⟨_,rfl⟩ fun other shown => ⟨other,here other shown⟩

theorem expectIdent_halts (failed : expectIdent stream = .error reason rest) :
    Halts expectIdent stream reason rest (∃ name, · = [.ident name]) := by
  rw [expectIdent,peek_bind] at failed
  cases found : stream.current with
  | none =>
    simp only [found,failAtEnd_run,EStateM.Result.error.injEq] at failed
    exact .inl (failed.2 ▸ exhausted_of_current steady found)
  | some lexeme =>
    obtain ⟨kind,place⟩ := lexeme
    cases kind with
    | ident name => simp [found,step_bind,pure_run] at failed
    | _ =>
      simp only [found,fail_run,EStateM.Result.error.injEq] at failed
      obtain ⟨rfl,_⟩ := failed
      refine halts_here found .ident ⟨_,"a",rfl⟩ ?_
      intro other shown
      exact ⟨other,by rw [expectIdent,peek_bind,shown]; rfl⟩

end

theorem isAt_congr (shown : other.current = stream.current) (token : Token) :
    other.isAt token = stream.isAt token := Feed.isAt_congr shown token

theorem notEof_congr (shown : other.current = stream.current) : other.notEof = stream.notEof :=
  Feed.notEof_congr shown

theorem precedence_congr (shown : other.current = stream.current) :
    other.precedence = stream.precedence := Feed.precedence_congr shown

section
variable {token : Token} {held missing : Parser α} {completes : List Token → Prop}

theorem Halts.ifHeld (here : stream.isAt token = true)
    (halted : Halts held stream reason rest completes) :
    Halts (do if ← isAt token then held else missing) stream reason rest completes := by
  apply halted.alike
  intro other shown
  rw [isAt_bind,isAt_congr shown,if_pos here]

theorem Halts.ifMissing (free : stream.isAt token = false)
    (halted : Halts missing stream reason rest completes) :
    Halts (do if ← isAt token then held else missing) stream reason rest completes := by
  apply halted.alike
  intro other shown
  rw [isAt_bind,isAt_congr shown,if_neg (by simp [free])]

end

end Scriptlet.Parser
