import Scriptlet.Proofs.Eval.Nesting
import Scriptlet.Proofs.Eval.Purity
import Scriptlet.Proofs.Store.Rendering

/-! Sessions are first order. A program cannot make a function, so the only functions of a session
are the native ones it starts with. A call then evaluates nothing, no scope is added, and an
evaluation goes no deeper than its program. -/
namespace Scriptlet

/-- No function of the language, and no native one but the two that a session starts with. -/
def Value.Basic : Value → Prop
  | .closure _ => False
  | .native function => function = ⟨0,"print",.print⟩ ∨ function = ⟨1,"time",.time⟩
  | _ => True

structure Store.FirstOrder (store : Store) : Prop where
  single : store.scopes.size = 1
  basic : store.Only Value.Basic

namespace Accord

abbrev single : Accord := keeping fun world => world.store.scopes.size = 1

private theorem single_stepwise : single.Stepwise where
  number _ := trivial
  null := trivial
  owned _ := trivial
  log {_ _} := keeping_governs fun _ => id
  lookup {scope name} _ := by
    apply keeping_governs
    intro world alone
    rw [Act.lookup_apply]
    cases world.store.lookup scope name <;> exact alone
  declare {scope name value constant} _ _ := by
    apply keeping_governs
    intro world alone
    rw [Act.declare_apply]
    cases declared : world.store.declare scope name value constant with
    | error fault => exact alone
    | ok store =>
      obtain ⟨_,rfl⟩ := Store.declare_ok.mp declared
      exact Store.size_bind.trans alone
  assign {scope name value} _ _ := by
    apply keeping_governs
    intro world alone
    rw [Act.assign_apply]
    cases assigned : world.store.assign scope name value with
    | error fault => exact alone
    | ok store =>
      obtain ⟨_,_,_,rfl⟩ := Store.assign_ok.mp assigned
      exact Store.size_bind.trans alone
  addObject _ := keeping_governs fun _ => id
  readProperty {object key span} _ := by
    apply keeping_governs
    intro world alone
    rw [Eval.readProperty_apply]
    cases world.store.property? object key <;> exact alone
  writeProperty _ _ := keeping_governs fun _ => id

def firstOrder : Accord := single.storing Value.Basic

private theorem firstOrder_stepwise : firstOrder.Stepwise :=
  single_stepwise.storing (fun _ => trivial) trivial fun _ => trivial

private theorem print_firstOrder (arguments : List Value) :
    firstOrder.Governs firstOrder.value (Host.print arguments) := by
  have governed : single.Governs (fun _ => True) (Host.print arguments) :=
    keeping_governs fun _ => id
  refine governed.storing_still (fun _ => rfl) fun world value after _ ok _ => ?_
  obtain ⟨rfl,_⟩ := EStateM.Result.ok.inj ok
  exact ⟨trivial,trivial⟩

private theorem time_firstOrder : firstOrder.Governs firstOrder.value Host.time := by
  apply firstOrder_stepwise.time_governed
  have governed : single.Governs (fun _ => True) (Act.readClock : Act Fault Reading) :=
    keeping_governs fun _ => id
  exact governed.storing_still (fun _ => rfl) fun _ _ _ _ _ => id

private theorem time_plain {world after : World} {fault : Fault}
    (failed : Host.time world = .error fault after) : fault.Plain := by
  rw [Host.time_apply] at failed
  cases read : world.clock 0 with
  | ok reading =>
    rw [read] at failed
    cases failed
  | error message =>
    rw [read] at failed
    obtain ⟨rfl,_⟩ := EStateM.Result.error.inj failed
    trivial

end Accord

namespace Host
open Act

/-- A call that evaluates nothing: it prints, tells the time or fails. -/
def immediate (callee : Value) (arguments : List Value) (_ : ScopeId) (span : Span) :
    Eval Value :=
  match callee with
  | .native ⟨_,name,.print⟩ => do
    log (.callNative name arguments.length)
    located span (print arguments)
  | .native ⟨_,name,.time⟩ => do
    log (.callNative name arguments.length)
    located span time
  | other => Eval.fail (.notCallable other.kind) span

variable {host : Host}

def SamePlain (first second : RuntimeError) : Prop := first = second ∧ first.fault.Plain

private theorem immediate_answers (depth : Nat) :
    Accord.firstOrder.Answers SamePlain (host.call (depth + 1)) immediate := by
  intro callee given scope span span' callable held inside told
  cases callee with
  | closure function => exact callable.2.elim
  | native function =>
    rcases callable.2 with rfl | rfl
    · apply Accord.firstOrder_stepwise.log_follows.bind
      intro _ _
      exact (Accord.print_firstOrder given).placed fun failed => by cases failed
    · apply Accord.firstOrder_stepwise.log_follows.bind
      intro _ _
      exact Accord.time_firstOrder.placed fun failed => told.error (Accord.time_plain failed)
  | number | boolean | null | object => exact Accord.follows_throw (told.error trivial)

/-- In a store without functions a program runs with immediate calls, whatever the host allows. The
store stays without functions, and no error is one of running a function. -/
theorem evaluate_immediate (deep : 0 < host.depth) {world : World}
    (first : world.store.FirstOrder) (scope : ScopeId) (program : Program) :
    host.evaluate scope program world = Eval.body immediate scope program.statements world ∧
      (stateAfter (host.evaluate scope program world)).store.FirstOrder ∧
      ∀ error, answerOf (host.evaluate scope program world) = .error error → error.fault.Plain := by
  obtain ⟨depth,deep⟩ : ∃ depth, host.depth = depth + 1 := ⟨host.depth - 1,by omega⟩
  have steps := Accord.firstOrder_stepwise
  have told : ∀ span ∈ program.spans, Accord.firstOrder.Tells SamePlain span (id span) :=
    fun span _ => steps.tells fun _ plain => ⟨rfl,plain⟩
  have owned : Accord.firstOrder.owned scope := trivial
  have answers : Accord.firstOrder.Answers SamePlain host.callValue immediate := by
    rw [callValue,deep]
    exact immediate_answers depth
  have follows := Accord.body_follows steps answers owned program.statements told
  have same : Statement.mapSpans id = id := funext Statement.mapSpans_id
  rw [same,List.map_id] at follows
  have met := @follows world world ⟨⟨rfl,first.single⟩,first.basic⟩
  change Accord.firstOrder.Meet SamePlain Accord.firstOrder.value
    (host.evaluate scope program world) _ at met
  revert met
  generalize host.evaluate scope program world = outcome
  generalize Eval.body immediate scope program.statements world = outcome'
  intro met
  cases met with
  | ok held related =>
    obtain ⟨⟨rfl,single⟩,basic⟩ := related
    exact ⟨rfl,⟨single,basic⟩,by simp [answerOf]⟩
  | error told related =>
    obtain ⟨⟨rfl,single⟩,basic⟩ := related
    obtain ⟨rfl,plain⟩ := told
    exact ⟨rfl,⟨single,basic⟩,by simp [answerOf,plain]⟩

end Host

namespace Session

/-- One input of a session, of whatever outcome; between inputs time passes and output is taken
away. -/
inductive Step [Text.Decoder] : Session → Session → Prop where
  | surroundings {session} (printed : String) (events : List Event) (clock : Nat → Reading) :
      Step session {session with world := ⟨session.world.store,printed,events,clock⟩}
  | eval {session} (source : String) : Step session (stateAfter (Session.eval source session))
  | runFile {session} (disk : Disk) (path : String) :
      Step session (stateAfter (Session.runFile disk path session))
  | parseFile {session} (disk : Disk) (path : String) :
      Step session (stateAfter (Session.parseFile disk path session))

def Reachable [Text.Decoder] (session : Session) : Prop :=
  ∃ clock, Relation.ReflTransGen Step (start clock) session

structure FirstOrder (session : Session) : Prop where
  store : session.world.store.FirstOrder
  scope : session.scope = 0
  host : session.host = Host.standard

variable {session : Session}

theorem start_firstOrder (clock : Nat → Reading) : (start clock).FirstOrder := by
  let constants := [("true",Value.boolean true),("false",.boolean false),("null",.null),
    ("print",.native ⟨0,"print",.print⟩),("time",.native ⟨1,"time",.time⟩)]
  have basic : ∀ constant ∈ constants, Value.Basic constant.2 := by simp [constants,Value.Basic]
  have none : Store.Only Value.Basic ⟨#[⟨.empty,[],none⟩],#[],2⟩ := by
    intro value stored
    cases stored with
    | inScope found member =>
      obtain ⟨_,_,rfl⟩ := Array.getElem?_eq_some_iff.mp found
      simp [Table.empty] at member
    | inObject found => simp at found
  exact ⟨⟨rfl,none.furnish basic⟩,rfl,rfl⟩

theorem FirstOrder.evalProgram (first : session.FirstOrder) (program : Program) (source : String) :
    (stateAfter (Session.evalProgram program source session)).FirstOrder := by
  have deep : 0 < session.host.depth := by
    rw [first.host]
    decide
  obtain ⟨_,later,_⟩ := Host.evaluate_immediate deep first.store session.scope program
  unfold Session.evalProgram
  generalize session.host.evaluate session.scope program session.world = outcome at later ⊢
  cases outcome with
  | ok value world => exact ⟨later,first.scope,first.host⟩
  | error error world => exact ⟨later,first.scope,first.host⟩

theorem FirstOrder.eval (first : session.FirstOrder) (source : String) :
    (stateAfter (Session.eval source session)).FirstOrder := by
  unfold Session.eval
  cases parseText source with
  | error reason => exact first
  | ok program => exact first.evalProgram program source

theorem FirstOrder.parseFile [Text.Decoder] (first : session.FirstOrder) (disk : Disk)
    (path : String) :
    (stateAfter (Session.parseFile disk path session)).FirstOrder := by
  obtain ⟨store,scope,host⟩ := parseFile_store session disk path
  exact ⟨store ▸ first.store,scope.trans first.scope,host.trans first.host⟩

theorem FirstOrder.runFile [Text.Decoder] (first : session.FirstOrder) (disk : Disk)
    (path : String) :
    (stateAfter (Session.runFile disk path session)).FirstOrder := by
  have parsed := first.parseFile disk path
  change (stateAfter (EStateM.bind (Session.parseFile disk path) _ session)).FirstOrder
  unfold EStateM.bind
  revert parsed
  cases Session.parseFile disk path session with
  | error reason after => exact id
  | ok content after => exact fun parsed => parsed.evalProgram content.1 content.2

theorem FirstOrder.step [Text.Decoder] {later : Session} (first : session.FirstOrder)
    (step : Step session later) : later.FirstOrder := by
  cases step with
  | surroundings => exact ⟨first.store,first.scope,first.host⟩
  | eval source => exact first.eval source
  | runFile disk path => exact first.runFile disk path
  | parseFile disk path => exact first.parseFile disk path

theorem Reachable.firstOrder [Text.Decoder] (reached : session.Reachable) : session.FirstOrder := by
  obtain ⟨clock,run⟩ := reached
  induction run with
  | refl => exact start_firstOrder clock
  | tail _ step ih => exact ih.step step

structure Sound (fits : Store → Value → Prop) (session : Session) : Prop where
  store : session.world.store.Sound fits
  inside : session.scope < session.world.store.scopes.size
  confined : session.host.Confines fits

section
variable {fits : Store → Value → Prop} [Store.Fitting fits]

private theorem Sound.keeps {α : Type} {outcome : EStateM.Result Error Session α}
    (sound : session.Sound fits) (kept : SessionKeeps fits session outcome) :
    (stateAfter outcome).Sound fits := by
  obtain ⟨touches,scope,host⟩ := kept
  obtain ⟨store,evolved⟩ := touches.keep sound.store
  refine ⟨store,?_,host ▸ sound.confined⟩
  rw [scope]
  exact Nat.lt_of_lt_of_le sound.inside evolved.size

private theorem start_sound (clock : Nat → Reading) : (start clock).Sound fits where
  store := ((addGlobal_touches Store.empty).keep Store.empty_sound).1
  inside := addGlobal_inside Store.empty
  confined := Host.standard_confines

theorem Step.sound [Text.Decoder] {later : Session} (sound : session.Sound fits)
    (step : Step session later) : later.Sound fits := by
  cases step with
  | surroundings => exact ⟨sound.store,sound.inside,sound.confined⟩
  | eval source =>
    exact sound.keeps (eval_keeps sound.confined sound.store sound.inside source)
  | runFile disk path =>
    exact sound.keeps (runFile_keeps sound.confined sound.store sound.inside disk path)
  | parseFile disk path => exact sound.keeps (parseFile_keeps session disk path)

theorem Reachable.sound [Text.Decoder] (reached : session.Reachable) : session.Sound fits := by
  obtain ⟨clock,run⟩ := reached
  induction run with
  | refl => exact start_sound clock
  | tail _ step ih => exact step.sound ih

end

/-- What a session stores leads to objects that were made. -/
theorem Reachable.closed [Text.Decoder] (reached : session.Reachable) :
    session.world.store.Sealed :=
  reached.sound.store.closed

end Session

/-- In every session that inputs lead to, there is one scope, no function of the language is stored,
and no native one but print and time. Every program then ends with a value or an error: evaluated
with immediate calls and no more levels than it is high, it does the same and does not use them
up. It does not matter how deep calls may nest, nor how deep a text may go, once that exceeds the
number of objects. -/
theorem sessions_first_order [Text.Decoder] {session : Session} (reached : session.Reachable) :
    (∀ function, ¬session.world.store.Stored (.closure function)) ∧
    (∀ function, session.world.store.Stored (.native function) →
      function = ⟨0,"print",.print⟩ ∨ function = ⟨1,"time",.time⟩) ∧
    (session.world.store.scopes.size = 1 ∧ session.scope = 0) ∧
    (∀ program : Program, ∃ outcome,
      session.host.evaluate session.scope program session.world = outcome ∧
      (∀ level, program.height ≤ level → Eval.bodyWithin Host.immediate session.scope level
        program.statements session.world = outcome) ∧
      (∀ depth, 0 < depth → Host.evaluate {session.host with depth := depth} session.scope program
        session.world = outcome) ∧
      ((∃ value after, outcome = .ok value after) ∨
        ∃ error after, outcome = .error error after ∧ error.fault ≠ .depthExceeded ∧
          ∀ name expected got, error.fault ≠ .arityMismatch name expected got)) ∧
    ∀ (store : Store) (value : Value) (depth : Nat), store.objects.size < depth →
      store.render depth [] value = store.text value := by
  have first := reached.firstOrder
  refine ⟨fun function => first.store.basic (.closure function),
    fun function => first.store.basic (.native function),⟨first.store.single,first.scope⟩,?_,
    fun store value depth enough => Store.render_eq_text enough value⟩
  intro program
  have deep : 0 < session.host.depth := by
    rw [first.host]
    decide
  obtain ⟨same,_,plain⟩ := Host.evaluate_immediate deep first.store session.scope program
  refine ⟨_,rfl,?_,?_,?_⟩
  · intro level enough
    rw [same,Eval.bodyWithin_eq]
    intro content member
    exact (Program.height_le member).trans enough
  · intro depth some
    rw [same]
    exact (Host.evaluate_immediate some first.store session.scope program).1
  · cases outcome : session.host.evaluate session.scope program session.world with
    | ok value after => exact .inl ⟨value,after,rfl⟩
    | error error after =>
      have known : error.fault.Plain := plain error (by rw [outcome]; rfl)
      refine .inr ⟨error,after,rfl,?_,?_⟩
      · intro exceeded
        simp [exceeded,Fault.Plain] at known
      · intro name expected got mismatch
        simp [mismatch,Fault.Plain] at known

/-- Printing an object that may enclose itself. -/
theorem sessions_first_order_print :
    let session := stateAfter
      (Session.eval "let o = \x7b\x7d; o.o = o;" (Session.start fun _ => .ok 0))
    let program : Program := ⟨[.expression (.call (.identifier ⟨"print",⟨0,5⟩⟩)
      [.identifier ⟨"o",⟨6,7⟩⟩] ⟨0,8⟩)],⟨0,8⟩⟩
    session.Reachable ∧ program.height = 2 ∧
      (∀ function, ¬session.world.store.Stored (.closure function)) ∧
      session.world.store.scopes.size = 1 ∧
      Eval.bodyWithin Host.immediate session.scope 2 program.statements session.world =
        session.host.evaluate session.scope program session.world := by
  intro session program
  have reached : session.Reachable := ⟨_,.single (.eval _)⟩
  have height : program.height = 2 := by simp [program,Program.height,Statement.height,Expr.height,
    argumentsHeight]
  obtain ⟨none,_,⟨single,_⟩,ends,_⟩ := sessions_first_order reached
  obtain ⟨outcome,same,bounded,_⟩ := ends program
  exact ⟨reached,height,none,single,(bounded 2 height.le).trans same.symm⟩

end Scriptlet
