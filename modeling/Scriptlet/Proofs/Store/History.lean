import Scriptlet.Proofs.Store.Chain
import Scriptlet.Proofs.Store.Toolkit
import Scriptlet.Session
import Scriptlet.Text.Utf8

/-! What a store goes through: scopes and values made by the host, evaluations and calls, and
the inputs of any number of sessions, each of them succeeding or failing. -/
namespace Scriptlet
open Store

def stateAfter {ε σ α : Type} : EStateM.Result ε σ α → σ
  | .ok _ state => state
  | .error _ state => state

structure Desk where
  scope : ScopeId
  path : String

structure Stage where
  world : World
  desks : List Desk

namespace Stage

def store (stage : Stage) : Store := stage.world.store

def Fresh (stage : Stage) : Prop := stage.store = Store.empty ∧ stage.desks = []

def perform {ε α : Type} (stage : Stage) (act : Act ε α) : Stage :=
  {stage with world := stateAfter (act stage.world)}

def addGlobal (stage : Stage) : Stage :=
  {stage with world := {stage.world with store := stage.store.addGlobal.2}}

def openDesk (stage : Stage) (path : String) : Stage :=
  {stage.addGlobal with desks := stage.desks ++ [⟨stage.store.addGlobal.1,path⟩]}

def converse {α : Type} (stage : Stage) (host : Host) (index : Nat) (desk : Desk)
    (act : SessionM α) : Stage :=
  let session := stateAfter (act ⟨stage.world,desk.scope,desk.path,host⟩)
  ⟨session.world,stage.desks.set index ⟨session.scope,session.path⟩⟩

/-- One step. Scopes that the host passes in exist, and values fit. -/
inductive Step [Text.Decoder] (fits : Store → Value → Prop) (host : Host) :
    Stage → Stage → Prop where
  | surroundings {stage} (printed : String) (events : List Event) (clock : Nat → Reading) :
      Step fits host stage {stage with world := ⟨stage.store,printed,events,clock⟩}
  | newScope {stage} : Step fits host stage (stage.perform (Act.addScope none : Act Fault ScopeId))
  | globalScope {stage} : Step fits host stage stage.addGlobal
  | withParent {stage} (parent : ScopeId) (made : parent < stage.store.scopes.size) :
      Step fits host stage (stage.perform (Act.addScope (some parent) : Act Fault ScopeId))
  | newObject {stage} (properties : Table Value)
      (held : ∀ key value, properties.get? key = some value → fits stage.store value) :
      Step fits host stage (stage.perform (Act.addObject properties : Act Fault Value))
  | newClosure {stage} (name : String) (parameters : List String) (body : List Statement)
      (scope : ScopeId) :
      Step fits host stage
        (stage.perform (Act.addClosure name parameters body scope : Act Fault Value))
  | declare {stage} (scope : ScopeId) (name : String) (value : Value) (constant : Bool)
      (held : fits stage.store value) :
      Step fits host stage (stage.perform (Act.declare scope name value constant))
  | declareNative {stage} (scope : ScopeId) (name : String) (routine : Routine) :
      Step fits host stage (stage.perform (Act.declareNative scope name routine))
  | assign {stage} (scope : ScopeId) (name : String) (value : Value)
      (held : fits stage.store value) :
      Step fits host stage (stage.perform (Act.assign scope name value))
  | evaluate {stage} (scope : ScopeId) (program : Program)
      (inside : scope < stage.store.scopes.size) :
      Step fits host stage (stage.perform (host.evaluate scope program))
  | statement {stage} (scope : ScopeId) (content : Statement)
      (inside : scope < stage.store.scopes.size) :
      Step fits host stage (stage.perform (host.statement scope content))
  | callValue {stage} (callee : Value) (given : List Value) (scope : ScopeId) (span : Span)
      (callable : fits stage.store callee) (held : ∀ value ∈ given, fits stage.store value)
      (inside : scope < stage.store.scopes.size) :
      Step fits host stage (stage.perform (host.callValue callee given scope span))
  | openSession {stage} (path : String) : Step fits host stage (stage.openDesk path)
  | eval {stage} {index : Nat} {desk : Desk} (sat : stage.desks[index]? = some desk)
      (source : String) :
      Step fits host stage (stage.converse host index desk (Session.eval source))
  | runFile {stage} {index : Nat} {desk : Desk} (sat : stage.desks[index]? = some desk)
      (disk : Disk) (path : String) :
      Step fits host stage (stage.converse host index desk (Session.runFile disk path))
  | parseFile {stage} {index : Nat} {desk : Desk} (sat : stage.desks[index]? = some desk)
      (disk : Disk) (path : String) :
      Step fits host stage (stage.converse host index desk (Session.parseFile disk path))

abbrev Runs [Text.Decoder] (fits : Store → Value → Prop) (host : Host) : Stage → Stage → Prop :=
  Relation.ReflTransGen (Step fits host)

abbrev Run [Text.Decoder] (host : Host) : Stage → Stage → Prop := Runs Holds host

end Stage

/-! Global scopes. -/

def Initial : String → Value → Prop
  | "true",value => value = .boolean true
  | "false",value => value = .boolean false
  | "null",value => value = .null
  | "print",value => ∃ identity, value = .native ⟨identity,"print",.print⟩
  | "time",value => ∃ identity, value = .native ⟨identity,"time",.time⟩
  | _,_ => False

def initialNames : List String := ["true","false","null","print","time"]

/-- The scope declares the initial names as constants with their initial values. -/
def Furnished (store : Store) (scope : ScopeId) : Prop :=
  ∀ name ∈ initialNames, store.isConstant name scope = true ∧
    ∃ value, Initial name value ∧ store.value? scope name = some value

variable {fits : Store → Value → Prop}

private theorem Furnished.evolve {store store' : Store} {scope : ScopeId}
    (furnished : Furnished store scope)
    (formed : store.Sound fits) (evolved : store.Evolves store') : Furnished store' scope := by
  intro name initial
  obtain ⟨constant,value,right,stored⟩ := furnished name initial
  have declared := formed.declared constant
  refine ⟨(evolved.flag declared).trans constant,value,right,?_⟩
  rw [evolved.value declared constant,stored]

/-- Constants written one by one under names that are free. -/
theorem furnish_touches {scope : ScopeId} {constants : List (String × Value)} {store : Store}
    (distinct : (constants.map (·.1)).Nodup)
    (free : ∀ entry ∈ constants, store.declares entry.1 scope = false)
    (held : ∀ entry ∈ constants, ∀ store : Store, fits store entry.2) :
    Touches fits store (constants.foldl (fun store entry =>
      store.bind scope entry.1 entry.2 true) store) := by
  induction constants generalizing store with
  | nil => exact .refl
  | cons first others ih =>
    obtain ⟨apart,distinct⟩ := List.nodup_cons.mp distinct
    have touch : Touch fits store (store.bind scope first.1 first.2 true) :=
      .declare (held first (by simp) store) (declare_ok.mpr ⟨free first (by simp),rfl⟩)
    refine .head touch (ih distinct ?_ fun entry member => held entry (by simp [member]))
    intro entry member
    have other : entry.1 ≠ first.1 := by
      intro same
      exact apart (List.mem_map.mpr ⟨entry,member,same⟩)
    unfold declares
    rw [value?_bind,if_neg (by simp [other])]
    exact free entry (by simp [member])

theorem addGlobal_touches [Fitting fits] (store : Store) :
    Touches fits store store.addGlobal.2 := by
  have made : Touches fits store (store.addScope none).2 := .single (.scope none (by simp))
  have print := made.tail (.native "print" .print)
  have time := print.tail (.native "time" .time)
  refine time.trans (furnish_touches (by simp) ?_ ?_)
  · intro entry _
    have empty : ((store.addScope none).2).declares entry.1 store.scopes.size = false := by
      unfold declares
      rw [value?_addScope]
      simp [value?]
    exact empty
  · intro entry member other
    simp only [List.mem_cons,List.not_mem_nil,or_false] at member
    rcases member with rfl | rfl | rfl | rfl | rfl <;> exact Fitting.bare trivial

private theorem addGlobal_furnished (store : Store) :
    Furnished store.addGlobal.2 store.addGlobal.1 := by
  intro name member
  simp only [initialNames,List.mem_cons,List.not_mem_nil,or_false] at member
  rcases member with rfl | rfl | rfl | rfl | rfl <;>
    simp [addGlobal,value?_bind,isConstant_bind,size_bind,Initial,addScope,addNative]

theorem addGlobal_inside (store : Store) :
    store.addGlobal.1 < store.addGlobal.2.scopes.size := by
  simp [addGlobal,size_bind,addScope,addNative]

/-! Sessions. -/

theorem Keeps.touches {ε α : Type} {world : World} {result : Store → α → Prop}
    {outcome : EStateM.Result ε World α} (kept : Keeps fits world result outcome) :
    Touches fits world.store (stateAfter outcome).store := by
  cases outcome with
  | ok value after => exact kept.1
  | error reason after => exact kept

def SessionKeeps {α : Type} (fits : Store → Value → Prop) (session : Session)
    (outcome : EStateM.Result Error Session α) : Prop :=
  Touches fits session.world.store (stateAfter outcome).world.store ∧
    (stateAfter outcome).scope = session.scope ∧ (stateAfter outcome).host = session.host

variable {host : Host} {session : Session}

theorem parseFile_store [Text.Decoder] (session : Session) (disk : Disk) (path : String) :
    let after := stateAfter (Session.parseFile disk path session)
    after.world.store = session.world.store ∧ after.scope = session.scope ∧
      after.host = session.host := by
  unfold Session.parseFile
  cases disk path with
  | error fault => exact ⟨rfl,rfl,rfl⟩
  | ok entry =>
    cases entry with
    | directory => exact ⟨rfl,rfl,rfl⟩
    | file bytes =>
      dsimp only
      cases parsed : Session.parseBytes path bytes with
      | error reason => exact ⟨rfl,rfl,rfl⟩
      | ok content => exact ⟨rfl,rfl,rfl⟩

theorem parseFile_keeps [Text.Decoder] (session : Session) (disk : Disk) (path : String) :
    SessionKeeps fits session (Session.parseFile disk path session) := by
  obtain ⟨store,scope,host⟩ := parseFile_store session disk path
  exact ⟨store ▸ .refl,scope,host⟩

section
variable [Fitting fits]

private theorem evalProgram_keeps (confined : session.host.Confines fits)
    (formed : session.world.store.Sound fits)
    (inside : session.scope < session.world.store.scopes.size) (program : Program)
    (source : String) : SessionKeeps fits session (Session.evalProgram program source session) := by
  have kept := (evaluate_keeps confined formed inside program).touches
  unfold Session.evalProgram
  cases outcome : session.host.evaluate session.scope program session.world with
  | ok value world =>
    rw [outcome] at kept
    exact ⟨kept,rfl,rfl⟩
  | error reason world =>
    rw [outcome] at kept
    exact ⟨kept,rfl,rfl⟩

theorem eval_keeps (confined : session.host.Confines fits) (formed : session.world.store.Sound fits)
    (inside : session.scope < session.world.store.scopes.size) (source : String) :
    SessionKeeps fits session (Session.eval source session) := by
  unfold Session.eval
  cases parseText source with
  | error reason => exact ⟨.refl,rfl,rfl⟩
  | ok program => exact evalProgram_keeps confined formed inside program source

theorem runFile_keeps [Text.Decoder] (confined : session.host.Confines fits)
    (formed : session.world.store.Sound fits)
    (inside : session.scope < session.world.store.scopes.size) (disk : Disk) (path : String) :
    SessionKeeps fits session (Session.runFile disk path session) := by
  obtain ⟨store,scope,host⟩ := parseFile_store session disk path
  change SessionKeeps fits session (EStateM.bind (Session.parseFile disk path) _ session)
  unfold EStateM.bind
  cases outcome : Session.parseFile disk path session with
  | error reason after =>
    rw [outcome] at store scope host
    exact ⟨store ▸ .refl,scope,host⟩
  | ok content after =>
    rw [outcome] at store scope host
    obtain ⟨program,text⟩ := content
    simp only [stateAfter] at store scope host
    have kept := evalProgram_keeps (host ▸ confined) (store ▸ formed) (by rwa [scope,store])
      program text
    unfold SessionKeeps at kept ⊢
    rwa [store,scope,host] at kept

end

/-! Histories. -/

namespace Stage

variable {stage stage' : Stage}

structure Sound (fits : Store → Value → Prop) (stage : Stage) : Prop where
  store : stage.store.Sound fits
  inside : ∀ desk ∈ stage.desks, desk.scope < stage.store.scopes.size
  furnished : ∀ desk ∈ stage.desks, Furnished stage.store desk.scope

abbrev Formed (stage : Stage) : Prop := stage.Sound Holds

/-- A step touches the store, and its sessions are those before it and new ones. -/
structure Leads (fits : Store → Value → Prop) (stage stage' : Stage) : Prop where
  touches : Touches fits stage.store stage'.store
  desks : ∀ desk ∈ stage'.desks, (∃ old ∈ stage.desks, old.scope = desk.scope) ∨
    (desk.scope < stage'.store.scopes.size ∧ Furnished stage'.store desk.scope)

private theorem leads_of_touches (touches : Touches fits stage.store stage'.store)
    (same : stage'.desks = stage.desks) : Leads fits stage stage' := by
  refine ⟨touches,?_⟩
  intro desk member
  exact .inl ⟨desk,same ▸ member,rfl⟩

theorem leads_of_keeps {ε α : Type} {result : Store → α → Prop} {act : Act ε α}
    (kept : Keeps fits stage.world result (act stage.world)) :
    Leads fits stage (stage.perform act) :=
  leads_of_touches kept.touches rfl

private theorem leads_of_session {α : Type} {index : Nat} {desk : Desk} {act : SessionM α}
    (sat : stage.desks[index]? = some desk)
    (kept : SessionKeeps fits ⟨stage.world,desk.scope,desk.path,host⟩
      (act ⟨stage.world,desk.scope,desk.path,host⟩)) :
    Leads fits stage (stage.converse host index desk act) := by
  obtain ⟨touches,scope,_⟩ := kept
  refine ⟨touches,?_⟩
  intro other member
  rcases List.mem_or_eq_of_mem_set member with before | rfl
  · exact .inl ⟨other,before,rfl⟩
  · exact .inl ⟨desk,List.mem_of_getElem? sat,scope.symm⟩

private theorem addGlobal_desks : stage.addGlobal.desks = stage.desks := by
  unfold addGlobal
  rfl

private theorem openDesk_store (path : String) :
    (stage.openDesk path).store = stage.store.addGlobal.2 := by
  unfold openDesk
  rfl

theorem openDesk_desks (path : String) : (stage.openDesk path).desks =
    stage.desks ++ [⟨stage.store.addGlobal.1,path⟩] := by
  unfold openDesk
  rfl

theorem Fresh.sound (fresh : stage.Fresh) : stage.Sound fits := by
  obtain ⟨empty,none⟩ := fresh
  refine ⟨empty ▸ empty_sound,?_,?_⟩ <;> simp [none]

variable [Fitting fits]

theorem Leads.sound (leads : Leads fits stage stage') (formed : stage.Sound fits) :
    stage'.Sound fits := by
  obtain ⟨store,evolved⟩ := leads.touches.keep formed.store
  refine ⟨store,?_,?_⟩
  · intro desk member
    rcases leads.desks desk member with ⟨old,before,same⟩ | ⟨inside,_⟩
    · exact same ▸ Nat.lt_of_lt_of_le (formed.inside old before) evolved.size
    · exact inside
  · intro desk member
    rcases leads.desks desk member with ⟨old,before,same⟩ | ⟨_,furnished⟩
    · exact same ▸ (formed.furnished old before).evolve formed.store evolved
    · exact furnished

theorem openDesk_leads (path : String) : Leads fits stage (stage.openDesk path) := by
  have touches : Touches fits _ _ := addGlobal_touches stage.store
  rw [← openDesk_store path] at touches
  refine ⟨touches,?_⟩
  intro desk member
  rw [openDesk_desks] at member
  rcases List.mem_append.mp member with before | new
  · exact .inl ⟨desk,before,rfl⟩
  · obtain rfl := List.mem_singleton.mp new
    rw [openDesk_store]
    exact .inr ⟨addGlobal_inside stage.store,addGlobal_furnished stage.store⟩

/-- One step keeps the store's order, whether what it does succeeds or fails. -/
theorem Step.leads [Text.Decoder] (confined : host.Confines fits)
    (step : Step fits host stage stage') (formed : stage.Sound fits) :
    Leads fits stage stage' := by
  have store := formed.store
  cases step with
  | surroundings printed events clock => exact leads_of_touches .refl rfl
  | newScope => exact leads_of_keeps (addScope_keeps (by simp))
  | globalScope => exact leads_of_touches (addGlobal_touches stage.store) addGlobal_desks
  | withParent parent made => exact leads_of_keeps (addScope_keeps fun _ below =>
    Option.mem_some_iff.mp below ▸ made)
  | newObject properties held => exact leads_of_keeps (addObject_keeps held)
  | newClosure name parameters body scope =>
    exact leads_of_touches (.single (.closure name parameters body scope)) rfl
  | declare scope name value constant held => exact leads_of_keeps (declare_keeps store held)
  | declareNative scope name routine => exact leads_of_keeps (declareNative_keeps store)
  | assign scope name value held => exact leads_of_keeps (assign_keeps store held)
  | evaluate scope program inside =>
    exact leads_of_keeps (evaluate_keeps confined store inside program)
  | statement scope content inside =>
    exact leads_of_keeps (statement_keeps (call_obeys confined host.depth) store inside)
  | callValue callee given scope span callable held inside =>
    exact leads_of_keeps (call_obeys confined host.depth store callable held inside)
  | openSession path => exact openDesk_leads path
  | eval sat source =>
    have inside := formed.inside _ (List.mem_of_getElem? sat)
    exact leads_of_session sat (eval_keeps confined store inside source)
  | runFile sat disk path =>
    have inside := formed.inside _ (List.mem_of_getElem? sat)
    exact leads_of_session sat (runFile_keeps confined store inside disk path)
  | parseFile sat disk path => exact leads_of_session sat (parseFile_keeps _ disk path)

theorem Runs.keep [Text.Decoder] (confined : host.Confines fits)
    (runs : Runs fits host stage stage') (formed : stage.Sound fits) :
    stage'.Sound fits ∧ stage.store.Evolves stage'.store := by
  induction runs with
  | refl => exact ⟨formed,.refl _⟩
  | tail _ step ih =>
    obtain ⟨before,evolved⟩ := ih
    have leads := step.leads confined before
    exact ⟨leads.sound before,evolved.trans (leads.touches.keep before.store).2⟩

end Stage

/-- From nothing, whatever is done: constants are declared; parents stay and are older, so that
chains of scopes end and names are resolved; declarations stay with their flag; constants stay
with their value, those of every session among them. -/
theorem history_keeps_store [Text.Decoder] (confined : host.Confined) {start now later : Stage}
    (fresh : start.Fresh) (past : Stage.Run host start now) (future : Stage.Run host now later) :
    (∀ scope name, now.store.isConstant name scope = true →
      now.store.declares name scope = true) ∧
    (∀ scope, scope < now.store.scopes.size →
      later.store.parent? scope = now.store.parent? scope ∧
      (∀ parent, now.store.parent? scope = some parent → parent < scope) ∧
      now.store.Chain scope (now.store.chain scope) ∧
      ∀ name, now.store.Resolves name scope (now.store.resolve? scope name)) ∧
    (∀ scope name, now.store.declares name scope = true →
      later.store.declares name scope = true ∧
      later.store.isConstant name scope = now.store.isConstant name scope) ∧
    (∀ scope name, now.store.isConstant name scope = true →
      later.store.value? scope name = now.store.value? scope name) ∧
    (∀ desk ∈ now.desks, ∀ name ∈ initialNames, ∃ value, Initial name value ∧
      now.store.value? desk.scope name = some value ∧
      later.store.value? desk.scope name = some value) := by
  obtain ⟨formed,_⟩ := Stage.Runs.keep confined past fresh.sound
  obtain ⟨_,evolved⟩ := Stage.Runs.keep confined future formed
  refine ⟨fun _ _ => formed.store.declared,?_,
    fun _ _ here => ⟨evolved.declared here,evolved.flag here⟩,
    fun _ _ constant => evolved.value (formed.store.declared constant) constant,?_⟩
  · intro scope inside
    exact ⟨evolved.parent inside,fun _ => formed.store.older,chain_chain formed.store inside,
      resolve?_resolves formed.store inside⟩
  · intro desk member name initial
    obtain ⟨constant,value,right,stored⟩ := formed.furnished desk member name initial
    have kept := evolved.value (formed.store.declared constant) constant
    exact ⟨value,right,stored,kept.trans stored⟩

theorem history_keeps_true :
    let start : Stage := ⟨⟨Store.empty,"",[],fun _ => .ok 0⟩,[]⟩
    let now := start.openDesk "<repl>"
    let desk : Desk := ⟨0,"<repl>"⟩
    let later := now.converse Toolkit.host 0 desk (Session.eval "true = 1;")
    Toolkit.host.Confined ∧ start.Fresh ∧ Stage.Run Toolkit.host start now ∧
      Stage.Run Toolkit.host now later ∧
      later.store.value? desk.scope "true" = some (.boolean true) := by
  intro start now desk later
  have fresh : start.Fresh := ⟨rfl,rfl⟩
  have desks : now.desks = [desk] := Stage.openDesk_desks "<repl>"
  have past : Stage.Run Toolkit.host start now := .single (.openSession "<repl>")
  have future : Stage.Run Toolkit.host now later :=
    .single (.eval (by rw [desks]; rfl) "true = 1;")
  obtain ⟨_,_,_,_,kept⟩ := history_keeps_store Toolkit.host_confined fresh past future
  obtain ⟨value,right,_,stored⟩ :=
    kept desk (by simp [desks]) "true" (by simp [initialNames])
  obtain rfl : value = .boolean true := right
  exact ⟨Toolkit.host_confined,fresh,past,future,stored⟩

end Scriptlet
