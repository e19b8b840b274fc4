import Scriptlet.Proofs.Parser.Lockstep
import Scriptlet.Proofs.Parser.Window

/-! Requests to a parser. Whatever it is asked, a parser does nothing to its feed but step it on.
After any number of requests, failed ones among them, a window therefore shows the two tokens
behind those that were consumed. -/
namespace Scriptlet

namespace Parser

inductive Rule where
  | program
  | statement
  | declaration
  | expression
  | operations (floor : Precedence)
  | number
  | object
  | property
  | operation (left : Expr)
  | call (callee : Expr)
  | member (owner : Expr)

inductive Request where
  | step
  | take
  | isAt (token : Token)
  | notEof
  | precedence
  | endSpan
  | expectToken (token : Token)
  | expectIdent
  | whole
  | parse (bound : Nat) (rule : Rule)

variable {σ α : Type} [Feed σ] {feed : σ}

def Rule.parser (bound : Nat) : Rule → ParserOn σ Unit
  | .program => discard (Parser.program bound)
  | .statement => discard (Parser.statement bound)
  | .declaration => discard (Parser.declaration bound)
  | .expression => discard (Parser.expression bound)
  | .operations floor => discard (Parser.operations bound floor)
  | .number => discard Parser.number
  | .object => discard (Parser.object bound)
  | .property => discard (Parser.property bound)
  | .operation left => discard (Parser.operation bound left)
  | .call callee => discard (Parser.call bound callee)
  | .member owner => discard (Parser.member bound owner)

def Request.parser : Request → ParserOn σ Unit
  | .step => Parser.step
  | .take => discard Parser.take
  | .isAt token => discard (Parser.isAt token)
  | .notEof => discard Parser.notEof
  | .precedence => discard Parser.precedence
  | .endSpan => discard (Feed.endSpan <$> get)
  | .expectToken token => discard (Parser.expectToken token)
  | .expectIdent => discard Parser.expectIdent
  | .whole => discard Parser.whole
  | .parse bound rule => rule.parser bound

def after (parser : ParserOn σ α) (feed : σ) : σ :=
  match parser feed with
  | .ok _ rest => rest
  | .error _ rest => rest

def succeeds (parser : ParserOn σ α) (feed : σ) : Bool :=
  match parser feed with
  | .ok _ _ => true
  | .error _ _ => false

/-- How many tokens the request may consume. A failed expectation consumes none. -/
def Request.Moves (request : Request) (feed : σ) (before behind : Nat) : Prop :=
  match request with
  | .step | .take => behind = before + (Feed.current feed).toList.length
  | .isAt _ | .notEof | .precedence | .endSpan => behind = before
  | .expectToken _ | .expectIdent =>
    behind = if succeeds request.parser feed then before + 1 else before
  | .whole | .parse _ _ => before ≤ behind

/-! What every step keeps, every parse keeps: parsed beside itself, a feed stays equal to itself
and keeps the property. -/

variable {parser : ParserOn σ α}

section
variable {kept : σ → Prop}

def Same (kept : σ → Prop) (feed other : σ) : Prop := feed = other ∧ kept feed

private theorem Agree.kept_after (agreed : Agree (Same kept) (parser feed) (parser feed)) :
    kept (after parser feed) := by
  unfold after
  cases found : parser feed with
  | ok value rest =>
    rw [found] at agreed
    cases agreed with
    | ok related => exact related.2
  | error reason rest =>
    rw [found] at agreed
    cases agreed with
    | error related same => exact related.2

omit [Feed σ] in
private theorem after_discard (parser : ParserOn σ α) (feed : σ) :
    after (discard parser) feed = after parser feed := by
  change after (EStateM.map _ parser) feed = _
  unfold after EStateM.map
  cases parser feed <;> rfl

variable (closed : ∀ feed, kept feed → kept (Feed.step feed))
include closed

private theorem same_lockstep : Lockstep (Same kept) where
  current related := congrArg _ related.1
  step related _ _ := ⟨congrArg _ related.1,closed _ related.2⟩

private theorem rule_kept (bound : Nat) (rule : Rule) (start : kept feed) :
    kept (after (rule.parser bound) feed) := by
  have lock := same_lockstep closed
  have rules := tracking lock bound
  have here : Same kept feed feed := ⟨rfl,start⟩
  have stepped : Same kept (Feed.step feed) (Feed.step feed) := ⟨rfl,closed feed start⟩
  cases rule <;> simp only [Rule.parser,after_discard] <;> apply Agree.kept_after
  case program => exact program_tracks lock bound here
  case statement => exact statement_tracks lock bound here
  case declaration => exact declaration_tracks lock bound here stepped
  case expression => exact rules.expression here
  case operations floor => exact rules.operations floor here
  case number => exact agree_number lock here stepped
  case object => exact rules.object here
  case property => exact rules.property here
  case operation left => exact rules.operation left here stepped
  case call callee => exact rules.call callee here
  case member owner => exact rules.member owner here stepped

omit closed in
private theorem after_whole : after whole feed = after (run program) feed := by
  unfold after whole Production.whole
  cases run program feed with
  | ok content rest => cases found : Feed.fault rest <;> simp only [found]
  | error reason rest => cases found : Feed.fault rest <;> simp only [found]

theorem whole_kept (start : kept feed) : kept (after whole feed) := by
  have parsed := rule_kept closed (Feed.bound feed) .program start
  rw [Rule.parser,after_discard] at parsed
  rw [after_whole]
  exact parsed

end

/-- The parser takes the current token, or fails and takes nothing. -/
def TakesOne (parser : ParserOn σ α) : Prop :=
  ∀ feed, (∃ lexeme value, Feed.current feed = some lexeme ∧
      parser feed = .ok value (Feed.step feed)) ∨
    ∃ reason, parser feed = .error reason feed

private theorem TakesOne.discard (one : TakesOne parser) : TakesOne (discard parser) := by
  intro feed
  change _ ∨ ∃ reason, EStateM.map _ parser feed = .error reason feed
  rcases one feed with ⟨lexeme,value,shown,ran⟩ | ⟨reason,ran⟩
  · refine .inl ⟨lexeme,(),shown,?_⟩
    change EStateM.map _ parser feed = _
    rw [EStateM.map,ran]
  · exact .inr ⟨reason,by rw [EStateM.map,ran]⟩

private theorem expectToken_takesOne (token : Token) :
    TakesOne (expectToken token : ParserOn σ Span) := by
  intro feed
  rw [expectToken,Feed.peek_bind]
  cases Feed.current feed with
  | none => exact .inr ⟨_,rfl⟩
  | some lexeme =>
    dsimp only
    split
    · exact .inl ⟨lexeme,lexeme.span,rfl,rfl⟩
    · split <;> exact .inr ⟨_,rfl⟩

private theorem expectIdent_takesOne : TakesOne (expectIdent : ParserOn σ Identifier) := by
  intro feed
  rw [expectIdent,Feed.peek_bind]
  cases Feed.current feed with
  | none => exact .inr ⟨_,rfl⟩
  | some lexeme =>
    obtain ⟨kind,span⟩ := lexeme
    cases kind with
    | ident name => exact .inl ⟨_,⟨name,span⟩,rfl,rfl⟩
    | _ => exact .inr ⟨_,rfl⟩

end Parser

namespace Window
variable {σ : Type} [Source σ] {source : σ} {window : Window σ} {before : Nat}

private theorem Passed.expect (passed : Passed source before window) (request : Parser.Request)
    (one : Parser.TakesOne (request.parser : ParserOn (Window σ) Unit)) :
    Passed source (if Parser.succeeds request.parser window then before + 1 else before)
      (Parser.after request.parser window) := by
  rcases one window with ⟨lexeme,value,shown,ran⟩ | ⟨reason,ran⟩
  · have current : window.current = some lexeme := shown
    have stepped := passed.step
    rw [current] at stepped
    rw [Parser.succeeds,Parser.after,ran]
    exact stepped
  · rw [Parser.succeeds,Parser.after,ran]
    exact passed

def PassedSince (source : σ) (before : Nat) (window : Window σ) : Prop :=
  ∃ after, before ≤ after ∧ Passed source after window

theorem PassedSince.step (window : Window σ) (reached : PassedSince source before window) :
    PassedSince source before (Feed.step window) := by
  obtain ⟨after,later,passed⟩ := reached
  exact ⟨_,Nat.le_add_right_of_le later,passed.step⟩

theorem Passed.request (passed : Passed source before window) (request : Parser.Request) :
    ∃ after, before ≤ after ∧ request.Moves window before after ∧
      Passed source after (Parser.after request.parser window) := by
  have start : PassedSince source before window := ⟨before,Nat.le_refl before,passed⟩
  cases request with
  | step | take => exact ⟨_,Nat.le_add_right before _,rfl,passed.step⟩
  | isAt _ | notEof | precedence | endSpan => exact ⟨before,Nat.le_refl before,rfl,passed⟩
  | expectToken token =>
    have done := passed.expect (.expectToken token) (Parser.expectToken_takesOne token).discard
    exact ⟨_,by split <;> omega,rfl,done⟩
  | expectIdent =>
    have done := passed.expect .expectIdent Parser.expectIdent_takesOne.discard
    exact ⟨_,by split <;> omega,rfl,done⟩
  | whole =>
    obtain ⟨after,later,passed⟩ := Parser.whole_kept PassedSince.step start
    refine ⟨after,later,later,?_⟩
    rw [Parser.Request.parser,Parser.after_discard]
    exact passed
  | parse bound rule =>
    obtain ⟨after,later,passed⟩ := Parser.rule_kept PassedSince.step bound rule start
    exact ⟨after,later,later,passed⟩

def serve (window : Window σ) (requests : List Parser.Request) : Window σ :=
  requests.foldl (fun window request => Parser.after request.parser window) window

private theorem Passed.serve (passed : Passed source before window)
    (requests : List Parser.Request) :
    ∃ consumed : Nat → Nat, consumed 0 = before ∧ ∀ index,
      consumed index ≤ consumed (index + 1) ∧
      Passed source (consumed index) (window.serve (requests.take index)) ∧
      ∀ request, requests[index]? = some request →
        request.Moves (window.serve (requests.take index)) (consumed index)
          (consumed (index + 1)) := by
  induction requests generalizing window before with
  | nil =>
    refine ⟨fun _ => before,rfl,fun index => ⟨Nat.le_refl before,?_,nofun⟩⟩
    rw [List.take_nil]
    exact passed
  | cons first requests ih =>
    obtain ⟨after,later,moved,passed'⟩ := passed.request first
    obtain ⟨consumed,start,onward⟩ := ih passed'
    refine ⟨fun index => index.casesOn before consumed,rfl,fun index => ?_⟩
    cases index with
    | zero =>
      subst start
      refine ⟨later,passed,fun request found => ?_⟩
      obtain rfl : first = request := by simpa using found
      exact moved
    | succ index => exact onward index

end Window

/-- The window of a parser slides over its source and never goes back. After any requests it has
consumed a number of tokens, shows the next two and knows a fault among the next two items; nothing
behind the first fault or the end was pulled. Each request consumes what it says: none if it only
looks or if an expectation fails. -/
theorem windows_slide_over_sources {σ : Type} [Source σ] (source : σ)
    (requests : List Parser.Request) :
    ∃ consumed : Nat → Nat, consumed 0 = 0 ∧ ∀ index,
      consumed index ≤ consumed (index + 1) ∧
      ((Window.ofSource source).serve (requests.take index)).Shows source (consumed index) ∧
      ∀ request, requests[index]? = some request →
        request.Moves ((Window.ofSource source).serve (requests.take index)) (consumed index)
          (consumed (index + 1)) := by
  obtain ⟨consumed,start,onward⟩ := (Window.ofSource_passed source).serve requests
  refine ⟨consumed,start,fun index => ?_⟩
  obtain ⟨later,passed,moved⟩ := onward index
  exact ⟨later,passed.shows,moved⟩

-- The name behind the fault is never pulled, and the failed expectation leaves the semicolon.
example (error : LexError) (span : Span) :
    let name : Except LexError Lexeme := .ok ⟨.ident "x",span⟩
    (Window.ofSource [.ok ⟨.semicolon,span⟩,.error error,name]).serve [.expectIdent] =
      ⟨some ⟨.semicolon,span⟩,none,[error],[name],true⟩ := rfl

end Scriptlet
