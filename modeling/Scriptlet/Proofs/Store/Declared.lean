import Scriptlet.Proofs.Eval.Accord
import Scriptlet.Proofs.Store.History

/-! What an evaluation declares: the names of its own declarations in its own scope, up to the
statement that fails, and nothing in any other scope that was there before. -/
namespace Scriptlet
open Store

variable {host : Host} {world : World} {scope : ScopeId}

namespace Store

variable {base store store' : Store}

/-- The scopes of the first store are still there and have no new name. -/
structure NoneGained (base store : Store) : Prop where
  size : base.scopes.size ≤ store.scopes.size
  names : ∀ {scope name}, scope < base.scopes.size → store.declares name scope = true →
    base.declares name scope = true

theorem NoneGained.refl (store : Store) : store.NoneGained store := ⟨Nat.le_refl _,fun _ => id⟩

private theorem NoneGained.of_scopes (kept : base.NoneGained store)
    (same : store'.scopes = store.scopes) : base.NoneGained store' := by
  refine ⟨same ▸ kept.size,?_⟩
  intro scope name inside here
  simp only [declares,value?,same] at here
  exact kept.names inside here

theorem NoneGained.addScope (kept : base.NoneGained store) (parent : Option ScopeId) :
    base.NoneGained (store.addScope parent).2 := by
  refine ⟨Nat.le_trans kept.size (addScope_evolves parent).size,?_⟩
  intro scope name inside here
  simp only [declares,value?_addScope] at here
  exact kept.names inside here

theorem NoneGained.bind (kept : base.NoneGained store) {name : String} {value : Value}
    {constant : Bool} (known : base.scopes.size ≤ scope ∨ store.declares name scope = true) :
    base.NoneGained (store.bind scope name value constant) := by
  refine ⟨Nat.le_trans kept.size (Nat.le_of_eq size_bind.symm),?_⟩
  intro place key inside here
  unfold declares at here
  rw [value?_bind] at here
  split at here
  · next written =>
    obtain ⟨rfl,rfl,_⟩ := written
    rcases known with new | declared
    · exact (Nat.not_le.mpr inside new).elim
    · exact kept.names inside declared
  · exact kept.names inside here

theorem NoneGained.assign (kept : base.NoneGained store) {name : String} {value : Value}
    (ok : store.assign scope name value = .ok store') : base.NoneGained store' := by
  obtain ⟨owner,found,_,rfl⟩ := assign_ok.mp ok
  exact kept.bind (.inr (List.find?_some found))

end Store

/-! Evaluation gains no name in the scopes that were there. -/

namespace Accord

def quiet (base : Store) : Accord where
  related first second := second = first ∧ base.NoneGained first.store
  value _ := True
  scope _ := True
  owned scope := base.scopes.size ≤ scope

variable {ε α : Type} {base : Store} {fits : α → Prop}

private theorem quiet_governs {act : Act ε α} (kept : ∀ world, base.NoneGained world.store →
      base.NoneGained (stateAfter (act world)).store)
    (held : ∀ world, base.NoneGained world.store → ∀ value after, act world = .ok value after →
      fits value) : (quiet base).Governs fits act := by
  rintro first second ⟨rfl,related⟩
  have later := kept second related
  cases outcome : act second with
  | ok value after =>
    rw [outcome] at later
    exact .ok (held second related value after outcome) ⟨rfl,later⟩
  | error reason after =>
    rw [outcome] at later
    exact .error ⟨rfl,later⟩

private theorem quiet_governs_any {act : Act ε α} (kept : ∀ world, base.NoneGained world.store →
      base.NoneGained (stateAfter (act world)).store) :
    (quiet base).Governs (fun _ => True) act :=
  quiet_governs kept fun _ _ _ _ _ => trivial

theorem Governs.gainsNone {act : Act ε α} (governed : (quiet world.store).Governs fits act) :
    world.store.NoneGained (stateAfter (act world)).store := by
  have matched := @governed world world ⟨rfl,.refl _⟩
  generalize act world = outcome at matched
  cases matched with
  | ok held related => exact related.2
  | error related => exact related.2

theorem quiet_lawful (base : Store) : (quiet base).Lawful where
  number _ := trivial
  null := trivial
  closure _ := trivial
  owned _ := trivial
  log {_ _} := quiet_governs_any fun _ kept => kept.of_scopes rfl
  lookup {scope name} _ := by
    apply quiet_governs_any
    intro world kept
    rw [Act.lookup_apply]
    cases world.store.lookup scope name <;> exact kept
  declare {scope name value constant} owned _ := by
    apply quiet_governs_any
    intro world kept
    rw [Act.declare_apply]
    cases ok : world.store.declare scope name value constant with
    | error fault => exact kept
    | ok store =>
      obtain ⟨_,rfl⟩ := declare_ok.mp ok
      exact kept.bind (.inl owned)
  assign {scope name value} _ _ := by
    apply quiet_governs_any
    intro world kept
    rw [Act.assign_apply]
    cases ok : world.store.assign scope name value with
    | error fault => exact kept
    | ok store => exact kept.assign ok
  addScope {ε parent} _ := by
    refine quiet_governs (fun _ kept => kept.addScope (some parent)) ?_
    intro world kept scope after made
    obtain rfl : world.store.scopes.size = scope := (EStateM.Result.ok.inj made).1
    exact kept.size
  addObject _ := quiet_governs_any fun _ kept => kept.of_scopes rfl
  readProperty {object key span} _ := by
    apply quiet_governs_any
    intro world kept
    rw [Eval.readProperty_apply]
    cases world.store.property? object key <;> exact kept
  writeProperty _ _ := quiet_governs_any fun _ kept => kept.of_scopes rfl
  print _ := quiet_governs_any fun _ kept => kept.of_scopes rfl
  readClock {_} := quiet_governs_any fun _ kept => kept.of_scopes rfl

end Accord

/-- Custom routines declare nothing in the scopes there are, if the calls they are given do not. -/
def Host.DeclaresNothing (host : Host) : Prop := ∀ base, host.Honours (.quiet base)

theorem Host.standard_declaresNothing : Host.standard.DeclaresNothing := by
  intro base label invoke arguments scope _ _ _
  exact Accord.governs_throw

/-! What statements add to the names of their scope. -/

def Statement.declared : Statement → List Declaration
  | .declaration content => [content]
  | .expression _ => []

def declarationsOf (statements : List Statement) : List Declaration :=
  statements.flatMap Statement.declared

/-- The names of the declarations are distinct and were free in the scope. They are its only new
names, and constant if declared so; other scopes have the names they had. -/
structure Gains (scope : ScopeId) (added : List Declaration) (before after : Store) : Prop where
  size : before.scopes.size ≤ after.scopes.size
  distinct : (added.map (·.identifier.name)).Nodup
  fresh : ∀ content ∈ added, before.declares content.identifier.name scope = false
  names : ∀ name, after.declares name scope = true ↔
    before.declares name scope = true ∨ ∃ content ∈ added, content.identifier.name = name
  constants : ∀ content ∈ added,
    after.isConstant content.identifier.name scope = content.constant
  old : ∀ name, before.declares name scope = true →
    after.isConstant name scope = before.isConstant name scope
  elsewhere : ∀ other, other < before.scopes.size → other ≠ scope → ∀ name,
    after.declares name other = before.declares name other

namespace Gains

variable {before middle after : Store} {added others : List Declaration}

theorem none (evolved : before.Evolves after) (kept : before.NoneGained after)
    (inside : scope < before.scopes.size) : Gains scope [] before after where
  size := kept.size
  distinct := List.nodup_nil
  fresh := by simp
  names name := by
    simp only [List.not_mem_nil,false_and,exists_false,or_false]
    exact ⟨kept.names inside,evolved.declared⟩
  constants := by simp
  old _ here := evolved.flag here
  elsewhere _ inside _ _ := Bool.eq_iff_iff.mpr ⟨kept.names inside,evolved.declared⟩

theorem trans (first : Gains scope added before middle) (second : Gains scope others middle after) :
    Gains scope (added ++ others) before after where
  size := Nat.le_trans first.size second.size
  distinct := by
    rw [List.map_append]
    refine List.nodup_append.mpr ⟨first.distinct,second.distinct,?_⟩
    intro name here key there same
    obtain ⟨content,member,rfl⟩ := List.mem_map.mp here
    obtain ⟨other,member',rfl⟩ := List.mem_map.mp there
    have taken := (first.names _).mpr (.inr ⟨content,member,rfl⟩)
    have free := second.fresh other member'
    exact Bool.false_ne_true (free.symm.trans (same ▸ taken))
  fresh := by
    intro content member
    rcases List.mem_append.mp member with here | there
    · exact first.fresh content here
    · have free := second.fresh content there
      refine Bool.eq_false_iff.mpr fun taken => ?_
      exact Bool.false_ne_true (free.symm.trans ((first.names _).mpr (.inl taken)))
  names name := by
    rw [second.names,first.names]
    simp only [List.mem_append,or_and_right,exists_or,or_assoc]
  constants := by
    intro content member
    rcases List.mem_append.mp member with here | there
    · have declared := (first.names _).mpr (.inr ⟨content,here,rfl⟩)
      exact (second.old _ declared).trans (first.constants content here)
    · exact second.constants content there
  old name here :=
    (second.old name ((first.names name).mpr (.inl here))).trans (first.old name here)
  elsewhere other inside apart name :=
    (second.elsewhere other (Nat.lt_of_lt_of_le inside first.size) apart name).trans
      (first.elsewhere other inside apart name)

theorem declare (formed : before.WellFormed) (inside : scope < before.scopes.size)
    {content : Declaration} {value : Value}
    (ok : before.declare scope content.identifier.name value content.constant = .ok after) :
    Gains scope [content] before after := by
  obtain ⟨free,rfl⟩ := declare_ok.mp ok
  have evolved :
      before.Evolves (before.bind scope content.identifier.name value content.constant) :=
    bind_evolves (formed.free free) (by simp [free])
  constructor
  · exact evolved.size
  · simp
  · simpa using free
  · intro name
    simp only [declares,value?_bind,inside]
    by_cases same : name = content.identifier.name
    · simp [same]
    · simp [same,Ne.symm same]
  · simp [isConstant_bind,inside,formed.free free]
  · exact fun _ here => evolved.flag here
  · intro other _ apart name
    simp [declares,value?_bind,apart]

end Gains

/-- A success adds the names of the declarations, a failure none. -/
def Adds (scope : ScopeId) (added : List Declaration) (world : World) :
    EStateM.Result RuntimeError World Value → Prop
  | .ok _ after => Gains scope added world.store after.store
  | .error _ after => Gains scope [] world.store after.store

theorem Adds.since {added : List Declaration} {after : World}
    {outcome : EStateM.Result RuntimeError World Value}
    (before : Gains scope [] world.store after.store) (adds : Adds scope added after outcome) :
    Adds scope added world outcome := by
  cases outcome with
  | ok value later => exact before.trans adds
  | error reason later => exact before.trans adds

theorem Adds.bind {α : Type} {result : Store → α → Prop} {added : List Declaration} {act : Eval α}
    {next : α → Eval Value} (formed : world.store.WellFormed)
    (kept : Keeps Holds world result (act world))
    (gains : Gains scope [] world.store (stateAfter (act world)).store)
    (onward : ∀ value after, after.store.WellFormed → world.store.Evolves after.store →
      Adds scope added after (next value after)) :
    Adds scope added world ((act >>= next) world) := by
  obtain ⟨formed',evolved⟩ := kept.touches.keep formed
  change Adds scope added world (EStateM.bind act next world)
  unfold EStateM.bind
  cases outcome : act world with
  | error reason after =>
    rw [outcome] at gains
    exact gains
  | ok value after =>
    rw [outcome] at gains formed' evolved
    exact (onward value after formed' evolved).since gains

private theorem declare_adds {content : Declaration} {value : Value}
    (formed : world.store.WellFormed)
    (inside : scope < world.store.scopes.size) : Adds scope [content] world
      (Act.located content.span
        (Act.declare scope content.identifier.name value content.constant) world) := by
  unfold Act.located
  rw [Act.declare_apply]
  cases ok : world.store.declare scope content.identifier.name value content.constant with
  | error fault => exact .none (.refl _) (.refl _) inside
  | ok store => exact .declare formed inside ok

section
variable (quiet : host.DeclaresNothing) (confined : host.Confined)
include quiet confined

theorem expression_gains (tree : Expr) (formed : world.store.WellFormed)
    (inside : scope < world.store.scopes.size) : Gains scope [] world.store
      (stateAfter (Eval.expression host.callValue scope tree world)).store := by
  have kept : Keeps Holds world Holds (Eval.expression host.callValue scope tree world) :=
    expression_keeps (call_obeys confined host.depth) tree formed inside
  -- Calls declare their parameters in scopes that are made after this store.
  have lawful := Accord.quiet_lawful world.store
  have serves : (Accord.quiet world.store).Serves host.callValue :=
    Accord.call_serves lawful (quiet world.store) host.depth
  have known : (Accord.quiet world.store).scope scope := trivial
  have governed := Accord.expression_governed lawful serves known tree
  exact .none (kept.touches.keep formed).2 governed.gainsNone inside

private theorem declaration_adds (content : Declaration) (formed : world.store.WellFormed)
    (inside : scope < world.store.scopes.size) :
    Adds scope [content] world (Eval.declaration host.callValue scope content world) := by
  rw [Eval.declaration]
  cases content.value with
  | none => exact declare_adds formed inside
  | some tree =>
    have kept : Keeps Holds world Holds (Eval.expression host.callValue scope tree world) :=
      expression_keeps (call_obeys confined host.depth) tree formed inside
    apply Adds.bind formed kept (expression_gains quiet confined tree formed inside)
    intro value after formed evolved
    exact declare_adds formed (Nat.lt_of_lt_of_le inside evolved.size)

private theorem statement_adds (content : Statement) (formed : world.store.WellFormed)
    (inside : scope < world.store.scopes.size) :
    Adds scope content.declared world (host.statement scope content world) := by
  apply Adds.bind formed log_keeps (.none (.refl _) (.refl _) inside)
  intro _ after formed evolved
  have inside := Nat.lt_of_lt_of_le inside evolved.size
  cases content with
  | declaration content => exact declaration_adds quiet confined content formed inside
  | expression tree =>
    have gains := expression_gains quiet confined tree formed inside
    revert gains
    change Gains _ _ _ _ → Adds scope [] after (Eval.expression host.callValue scope tree after)
    cases Eval.expression host.callValue scope tree after <;> exact id

end

/-! Statement after statement. -/

namespace Host

def runFrom (host : Host) (scope : ScopeId) (initial : Value) (statements : List Statement) :
    Eval Value := statements.foldlM (fun _ content => host.statement scope content) initial

theorem evaluate_eq_runFrom (program : Program) :
    host.evaluate scope program = host.runFrom scope .null program.statements := rfl

variable {first : Statement} {others : List Statement} {initial value : Value} {after : World}
  {error : RuntimeError}

private theorem runFrom_ok (done : host.statement scope first world = .ok value after) :
    host.runFrom scope initial (first :: others) world = host.runFrom scope value others after := by
  unfold runFrom
  rw [List.foldlM_cons]
  change EStateM.bind (host.statement scope first) _ world = _
  rw [EStateM.bind,done]

private theorem runFrom_error (failed : host.statement scope first world = .error error after) :
    host.runFrom scope initial (first :: others) world = .error error after := by
  unfold runFrom
  rw [List.foldlM_cons]
  change EStateM.bind (host.statement scope first) _ world = _
  rw [EStateM.bind,failed]

/-- Where a run stops: the statements before it succeed, and the statement itself fails. -/
def Stops (host : Host) (scope : ScopeId) (initial : Value) (world : World)
    (done : List Statement) (content : Statement) (error : RuntimeError) (after : World) : Prop :=
  ∃ value middle, host.runFrom scope initial done world = .ok value middle ∧
    host.statement scope content middle = .error error after

theorem Stops.outcome {done : List Statement} {content : Statement}
    (stops : host.Stops scope initial world done content error after) (others : List Statement) :
    host.runFrom scope initial (done ++ content :: others) world = .error error after := by
  obtain ⟨value,middle,past,failed⟩ := stops
  induction done generalizing initial world with
  | nil =>
    obtain ⟨rfl,rfl⟩ := EStateM.Result.ok.inj past
    exact runFrom_error failed
  | cons first done ih =>
    cases outcome : host.statement scope first world with
    | ok result next =>
      rw [runFrom_ok outcome] at past
      rw [List.cons_append,runFrom_ok outcome]
      exact ih past
    | error reason next =>
      rw [runFrom_error outcome] at past
      cases past

end Host

/-- A success adds all declarations, a failure those before the statement that fails. -/
def RunAdds (host : Host) (scope : ScopeId) (statements : List Statement) (initial : Value)
    (world : World) : EStateM.Result RuntimeError World Value → Prop
  | .ok _ after => Gains scope (declarationsOf statements) world.store after.store
  | .error error after => ∃ done content rest, statements = done ++ content :: rest ∧
    host.Stops scope initial world done content error after ∧
    Gains scope (declarationsOf done) world.store after.store

theorem runFrom_adds (quiet : host.DeclaresNothing) (confined : host.Confined)
    (statements : List Statement) (initial : Value) (formed : world.store.WellFormed)
    (inside : scope < world.store.scopes.size) : RunAdds host scope statements initial world
      (host.runFrom scope initial statements world) := by
  -- Each statement starts from the value before it, which it never looks at.
  induction statements generalizing world initial with
  | nil => exact .none (.refl _) (.refl _) inside
  | cons first others ih =>
    have adds := statement_adds quiet confined first formed inside
    have kept : Keeps Holds world Holds (host.statement scope first world) :=
      statement_keeps (call_obeys confined host.depth) formed inside
    obtain ⟨formed',evolved⟩ := kept.touches.keep formed
    cases outcome : host.statement scope first world with
    | error reason after =>
      rw [outcome] at adds
      rw [Host.runFrom_error outcome]
      exact ⟨[],first,others,rfl,⟨initial,world,rfl,outcome⟩,adds⟩
    | ok value middle =>
      rw [outcome] at adds formed' evolved
      have rest : RunAdds host scope others value middle
          (host.runFrom scope value others middle) :=
        ih value formed' (Nat.lt_of_lt_of_le inside evolved.size)
      rw [Host.runFrom_ok outcome]
      cases final : host.runFrom scope value others middle with
      | ok result after =>
        rw [final] at rest
        exact adds.trans rest
      | error reason after =>
        rw [final] at rest
        obtain ⟨done,content,rest,rfl,⟨result,last,past,stopped⟩,gains⟩ := rest
        refine ⟨first :: done,content,rest,rfl,⟨result,last,?_,stopped⟩,adds.trans gains⟩
        rw [Host.runFrom_ok outcome,past]

/-- Among the scopes there are, only the program's own gains names. A success declares what the
program declares, under distinct names that were free; a failure declares what stands before the
statement that fails, and what stands after it has no effect. So a program with a declaration
succeeds once at most in its scope, whatever is run in between. -/
theorem evaluation_declares (quiet : host.DeclaresNothing) (confined : host.Confined)
    {stage : Stage} (formed : stage.Formed) (inside : scope < stage.store.scopes.size)
    (program : Program) :
    (∀ other, other < stage.store.scopes.size → other ≠ scope → ∀ name,
      (stage.perform (host.evaluate scope program)).store.declares name other =
        stage.store.declares name other) ∧
    (∀ value after, host.evaluate scope program stage.world = .ok value after →
      Gains scope (declarationsOf program.statements) stage.store after.store ∧
      (declarationsOf program.statements ≠ [] → ∀ between : Host, between.Confined →
        ∀ later, Stage.Run between (stage.perform (host.evaluate scope program)) later →
        ∀ value final, host.evaluate scope program later.world ≠ .ok value final)) ∧
    (∀ error after, host.evaluate scope program stage.world = .error error after →
      ∃ done content rest, program.statements = done ++ content :: rest ∧
        (∃ value middle, host.evaluate scope ⟨done,program.span⟩ stage.world = .ok value middle ∧
          host.statement scope content middle = .error error after) ∧
        Gains scope (declarationsOf done) stage.store after.store ∧
        ∀ others, host.evaluate scope ⟨done ++ content :: others,program.span⟩ stage.world =
          .error error after) := by
  have adds {world : World} (formed : world.store.WellFormed)
      (inside : scope < world.store.scopes.size) :
      RunAdds host scope program.statements .null world (host.evaluate scope program world) := by
    rw [Host.evaluate_eq_runFrom]
    exact runFrom_adds quiet confined program.statements .null formed inside
  have now := adds formed.store inside
  refine ⟨?_,?_,?_⟩
  · intro other known apart name
    change (stateAfter (host.evaluate scope program stage.world)).store.declares name other = _
    cases outcome : host.evaluate scope program stage.world with
    | ok value after =>
      rw [outcome] at now
      exact now.elsewhere other known apart name
    | error error after =>
      rw [outcome] at now
      obtain ⟨done,content,rest,_,_,gains⟩ := now
      exact gains.elsewhere other known apart name
  · intro value after succeeded
    rw [succeeded] at now
    refine ⟨now,?_⟩
    intro some between orderly later run value' final again
    obtain ⟨content,member⟩ := List.exists_mem_of_ne_nil _ some
    have leads : Stage.Leads Holds stage (stage.perform (host.evaluate scope program)) :=
      Stage.leads_of_keeps (evaluate_keeps confined formed.store inside program)
    have left : (stage.perform (host.evaluate scope program)).store = after.store := by
      change (stateAfter (host.evaluate scope program stage.world)).store = after.store
      rw [succeeded]
      rfl
    obtain ⟨formed',evolved⟩ := Stage.Runs.keep orderly run (leads.sound formed)
    rw [left] at evolved
    have known : scope < later.store.scopes.size :=
      Nat.lt_of_lt_of_le inside (Nat.le_trans now.size evolved.size)
    have then' := adds formed'.store known
    rw [again] at then'
    have taken := evolved.declared ((now.names _).mpr (.inr ⟨content,member,rfl⟩))
    exact Bool.false_ne_true ((then'.fresh content member).symm.trans taken)
  · intro error after failed
    rw [failed] at now
    obtain ⟨done,content,rest,parts,stops,gains⟩ := now
    exact ⟨done,content,rest,parts,stops,gains,stops.outcome⟩

/-- `let x; const y = x;` succeeds in a new session, and not a second time. -/
theorem evaluation_declares_copy :
    let stage := (⟨⟨Store.empty,"",[],fun _ => .ok 0⟩,[]⟩ : Stage).openDesk "<repl>"
    let original : Declaration := ⟨⟨"x",⟨4,5⟩⟩,false,none,⟨0,6⟩⟩
    let copy : Declaration :=
      ⟨⟨"y",⟨13,14⟩⟩,true,some (.identifier ⟨"x",⟨17,18⟩⟩),⟨7,19⟩⟩
    let program : Program := ⟨[.declaration original,.declaration copy],⟨0,19⟩⟩
    let after := stage.perform (Host.standard.evaluate 0 program)
    Host.standard.DeclaresNothing ∧ Host.standard.Confined ∧ stage.Formed ∧
      0 < stage.store.scopes.size ∧
      after.store.isConstant "x" 0 = false ∧ after.store.isConstant "y" 0 = true ∧
      ∀ value final, Host.standard.evaluate 0 program after.world ≠ .ok value final := by
  intro stage original copy program after
  have formed : stage.Formed :=
    (Stage.openDesk_leads "<repl>").sound (Stage.Fresh.sound ⟨rfl,rfl⟩)
  have inside : 0 < stage.store.scopes.size := by decide +kernel
  have ran : Host.standard.evaluate 0 program stage.world = .ok .null after.world := by
    subst program original copy
    rfl
  have declared : declarationsOf program.statements = [original,copy] := rfl
  obtain ⟨_,succeeds,_⟩ := evaluation_declares Host.standard_declaresNothing
    Host.standard_confined formed inside program
  obtain ⟨gains,once⟩ := succeeds _ _ ran
  rw [declared] at gains once
  refine ⟨Host.standard_declaresNothing,Host.standard_confined,formed,inside,
    gains.constants original (by simp),gains.constants copy (by simp),?_⟩
  exact once (by simp) Host.standard Host.standard_confined after .refl

end Scriptlet
