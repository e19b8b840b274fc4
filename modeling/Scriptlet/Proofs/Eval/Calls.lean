import Mathlib.Data.List.Induction
import Mathlib.Data.List.Nodup
import Scriptlet.Proofs.Eval.Unlogged
import Scriptlet.Proofs.Store.Declared

/-! Calls of functions. A function runs in a new scope below the one it was made in, which holds its
parameters and nothing else; the scopes there are keep their names, however the call ends. -/
namespace Scriptlet
open Store

variable {host : Host} {world : World} {scope : ScopeId} {span : Span}

/-! Names bound in one scope. -/

namespace World

def bindAll (scope : ScopeId) : List (String × Value) → World → World
  | [],world => world
  | (name,value) :: pairs,world => bindAll scope pairs
    {world with
      store := world.store.bind scope name value false
      events := .declare name false :: world.events}

structure SameBut (scope : ScopeId) (before after : World) : Prop where
  size : after.store.scopes.size = before.store.scopes.size
  others : ∀ place, place ≠ scope → after.store.scopes[place]? = before.store.scopes[place]?
  parent : after.store.parent? scope = before.store.parent? scope
  constant : ∀ name, after.store.isConstant name scope = before.store.isConstant name scope
  objects : after.store.objects = before.store.objects
  identities : after.store.identities = before.store.identities
  printed : after.printed = before.printed
  clock : after.clock = before.clock

theorem SameBut.trans {before middle after : World} (first : SameBut scope before middle)
    (second : SameBut scope middle after) : SameBut scope before after where
  size := second.size.trans first.size
  others place apart := (second.others place apart).trans (first.others place apart)
  parent := second.parent.trans first.parent
  constant name := (second.constant name).trans (first.constant name)
  objects := second.objects.trans first.objects
  identities := second.identities.trans first.identities
  printed := second.printed.trans first.printed
  clock := second.clock.trans first.clock

private theorem bind_sameBut {name : String} {value : Value} {events : List Event} :
    SameBut scope world
    {world with store := world.store.bind scope name value false,events := events} where
  size := size_bind
  others place apart := by simp [Store.bind,Array.getElem?_modify,Ne.symm apart]
  parent := parent?_bind
  constant name := by simp [isConstant_bind]
  objects := rfl
  identities := rfl
  printed := rfl
  clock := rfl

private theorem bindAll_sameBut (pairs : List (String × Value)) :
    SameBut scope world (world.bindAll scope pairs) := by
  induction pairs generalizing world with
  | nil => exact ⟨rfl,fun _ _ => rfl,rfl,fun _ => rfl,rfl,rfl,rfl,rfl⟩
  | cons pair pairs ih => exact bind_sameBut.trans ih

private theorem bindAll_value? {pairs : List (String × Value)}
    (inside : scope < world.store.scopes.size)
    (distinct : (pairs.map (·.1)).Nodup) (key : String) :
    (world.bindAll scope pairs).store.value? scope key =
      (pairs.lookup key).or (world.store.value? scope key) := by
  induction pairs generalizing world with
  | nil => rfl
  | cons pair pairs ih =>
    obtain ⟨name,value⟩ := pair
    obtain ⟨absent,distinct⟩ := List.nodup_cons.mp distinct
    rw [bindAll,ih (size_bind.symm ▸ inside) distinct,Table.lookup_entry,value?_bind]
    by_cases same : key = name
    · subst same
      have none : pairs.lookup key = none := by
        rw [List.lookup_eq_none_iff]
        intro pair member
        have apart : key ≠ pair.1 := fun found => absent (List.mem_map.mpr ⟨pair,member,found.symm⟩)
        simpa using apart
      simp [none,inside]
    · simp [same]

end World
open World

private theorem located_declare {name : String} {value : Value} {constant : Bool} :
    (world.store.declares name scope = true →
      Act.located span (Act.declare scope name value constant) world =
        .error ⟨.duplicateDeclaration name,span⟩ world) ∧
    (world.store.declares name scope = false →
      ∃ after, Act.located span (Act.declare scope name value constant) world =
        .ok value after) := by
  unfold Act.located
  rw [Act.declare_apply,Store.declare]
  constructor
  · intro taken
    rw [if_pos taken]
  · intro free
    rw [free]
    exact ⟨_,rfl⟩

private theorem bindParameters_bind {names : List String} {arguments : List Value}
    (enough : names.length ≤ arguments.length) (distinct : names.Nodup)
    (inside : scope < world.store.scopes.size)
    (free : ∀ name ∈ names, world.store.declares name scope = false) (parameters : List String) :
    Host.bindParameters scope span (names ++ parameters) arguments world =
      Host.bindParameters scope span parameters (arguments.drop names.length)
        (world.bindAll scope (names.zip arguments)) := by
  induction names generalizing arguments world with
  | nil => rfl
  | cons name names ih =>
    cases arguments with
    | nil => simp at enough
    | cons value arguments =>
      obtain ⟨absent,distinct⟩ := List.nodup_cons.mp distinct
      obtain ⟨first,free⟩ := List.forall_mem_cons.mp free
      have ok : world.store.declare scope name value false =
          .ok (world.store.bind scope name value false) := declare_ok.mpr ⟨first,rfl⟩
      rw [List.cons_append,Host.bindParameters]
      change EStateM.bind (Act.located span (Act.declare scope name value false)) _ world = _
      unfold EStateM.bind Act.located
      rw [Act.declare_apply,ok]
      refine ih (by simpa using enough) distinct (size_bind.symm ▸ inside) fun key member => ?_
      have apart : key ≠ name := fun same => absent (same ▸ member)
      have before := free key member
      unfold declares at before ⊢
      rw [value?_bind,if_neg (by simp [apart])]
      exact before

/-! Entering a function. -/

/-- The first name that stands a second time in the list. -/
def FirstRepeated (name : String) (names : List String) : Prop :=
  ∃ before after, names = before ++ name :: after ∧ before.Nodup ∧ name ∈ before

private theorem exists_firstRepeated {names : List String} (repeated : ¬ names.Nodup) :
    ∃ name, FirstRepeated name names := by
  induction names using List.reverseRecOn with
  | nil => exact (repeated List.nodup_nil).elim
  | append_singleton names last ih =>
    by_cases distinct : names.Nodup
    · have member : last ∈ names := by
        by_contra absent
        exact repeated (List.nodup_append.mpr ⟨distinct,List.nodup_singleton last,by grind⟩)
      exact ⟨last,names,[],rfl,distinct,member⟩
    · obtain ⟨name,before,after,rfl,distinct,member⟩ := ih distinct
      exact ⟨name,before,after ++ [last],by simp,distinct,member⟩

private theorem lookup_zip_isSome {names : List String} {values : List Value}
    (enough : names.length ≤ values.length) (name : String) :
    ((names.zip values).lookup name).isSome = true ↔ name ∈ names := by
  have firsts : (names.zip values).map (·.1) = names := List.map_fst_zip enough
  have known : name ∈ (names.zip values).map (·.1) ↔ name ∈ names := by rw [firsts]
  rw [← known,List.lookup_isSome_iff,List.mem_map]
  simp only [beq_iff_eq,@eq_comm _ name]

def Closure.opened (function : Closure) (given : List Value) (world : World) : World :=
  {world with
    store := (world.store.addScope (some function.scope)).2
    events := .call function.name given.length :: world.events}

/-- From one world to the next, a scope is new. Its parent is the scope the function was made in,
and it binds the parameters to the first arguments, all of them variables. Nothing else is
different but the log. -/
structure Closure.Enters (function : Closure) (given : List Value) (before after : World) :
    Prop where
  size : after.store.scopes.size = before.store.scopes.size + 1
  others : ∀ scope, scope < before.store.scopes.size →
    after.store.scopes[scope]? = before.store.scopes[scope]?
  parent : after.store.parent? before.store.scopes.size = some function.scope
  values : ∀ name, after.store.value? before.store.scopes.size name =
    (function.parameters.zip given).lookup name
  plain : ∀ name, after.store.isConstant name before.store.scopes.size = false
  objects : after.store.objects = before.store.objects
  identities : after.store.identities = before.store.identities
  printed : after.printed = before.printed
  clock : after.clock = before.clock

section
variable {function : Closure} {given : List Value}

def Closure.entered (function : Closure) (given : List Value) (world : World) : World :=
  (function.opened given world).bindAll world.store.scopes.size (function.parameters.zip given)

private theorem Closure.opened_inside :
    world.store.scopes.size < (function.opened given world).store.scopes.size := by
  simp [opened,size_addScope]

private theorem Closure.opened_value? (name : String) :
    (function.opened given world).store.value? world.store.scopes.size name = none := by
  simp only [opened,value?_addScope]
  simp [value?]

private theorem Closure.opened_free (name : String) :
    (function.opened given world).store.declares name world.store.scopes.size = false := by
  rw [declares,opened_value?]
  rfl

private theorem Closure.opened_scope (inside : scope < world.store.scopes.size) :
    (function.opened given world).store.scopes[scope]? = world.store.scopes[scope]? := by
  simp only [opened,scope_addScope,if_neg (Nat.ne_of_lt inside)]

private theorem Closure.entered_enters (enough : function.parameters.length ≤ given.length)
    (distinct : function.parameters.Nodup) :
    function.Enters given world (function.entered given world) := by
  have same : SameBut world.store.scopes.size (function.opened given world)
      (function.entered given world) := bindAll_sameBut _
  have names : (function.parameters.zip given).map (·.1) = function.parameters :=
    List.map_fst_zip enough
  constructor
  · rw [same.size]
    exact size_addScope
  · intro scope inside
    rw [same.others scope (Nat.ne_of_lt inside),opened_scope inside]
  · rw [same.parent]
    simp [opened,parent?_addScope]
  · intro name
    rw [entered,bindAll_value? opened_inside (by rwa [names]),opened_value?,Option.or_none]
  · intro name
    rw [same.constant]
    simp only [opened,isConstant_addScope]
    simp [isConstant]
  · exact same.objects
  · exact same.identities
  · exact same.printed
  · exact same.clock

private theorem call_few (fewer : given.length < function.parameters.length) (depth : Nat)
    (caller : ScopeId) : host.call (depth + 1) (.closure function) given caller span world =
      .error ⟨.arityMismatch function.name function.parameters.length given.length,span⟩
        {world with events := .call function.name given.length :: world.events} := by
  change Host.enter (host.call depth) function given span _ = _
  rw [Host.enter,if_pos fewer]
  rfl

private theorem call_enough (enough : function.parameters.length ≤ given.length) (depth : Nat)
    (caller : ScopeId) : host.call (depth + 1) (.closure function) given caller span world =
      match Host.bindParameters world.store.scopes.size span function.parameters given
        (function.opened given world) with
      | .ok _ entry => Eval.body (host.call depth) world.store.scopes.size function.body entry
      | .error error after => .error error after := by
  change Host.enter (host.call depth) function given span _ = _
  rw [Host.enter,if_neg (Nat.not_lt.mpr enough)]
  change EStateM.bind (Host.bindParameters _ span function.parameters given) _
    (function.opened given world) = _
  unfold EStateM.bind
  cases Host.bindParameters world.store.scopes.size span function.parameters given
    (function.opened given world) <;> rfl

private theorem bindParameters_entered (enough : function.parameters.length ≤ given.length)
    (distinct : function.parameters.Nodup) :
    Host.bindParameters world.store.scopes.size span function.parameters given
      (function.opened given world) = .ok () (function.entered given world) := by
  have bound := @bindParameters_bind (function.opened given world) world.store.scopes.size span
    function.parameters given enough distinct Closure.opened_inside
    (fun name _ => Closure.opened_free name) []
  rw [List.append_nil] at bound
  exact bound

private theorem call_entered (enough : function.parameters.length ≤ given.length)
    (distinct : function.parameters.Nodup) (depth : Nat) (caller : ScopeId) :
    host.call (depth + 1) (.closure function) given caller span world =
      Eval.body (host.call depth) world.store.scopes.size function.body
        (function.entered given world) := by
  rw [call_enough enough,bindParameters_entered enough distinct]

private theorem call_repeated (enough : function.parameters.length ≤ given.length) {name : String}
    (repeated : FirstRepeated name function.parameters) (depth : Nat) (caller : ScopeId) :
    ∃ after, host.call (depth + 1) (.closure function) given caller span world =
        .error ⟨.duplicateDeclaration name,span⟩ after ∧
      after.store.objects = world.store.objects ∧
      ∀ scope, scope < world.store.scopes.size →
        after.store.scopes[scope]? = world.store.scopes[scope]? := by
  obtain ⟨before,behind,parts,distinct,member⟩ := repeated
  have room : before.length < given.length := by
    rw [parts,List.length_append,List.length_cons] at enough
    omega
  have bound := @bindParameters_bind (function.opened given world) world.store.scopes.size span
    before given (by omega) distinct Closure.opened_inside
    (fun name _ => Closure.opened_free name) (name :: behind)
  let after := (function.opened given world).bindAll world.store.scopes.size (before.zip given)
  have same : SameBut world.store.scopes.size (function.opened given world) after :=
    bindAll_sameBut _
  have taken : after.store.declares name world.store.scopes.size = true := by
    have names : (before.zip given).map (·.1) = before := List.map_fst_zip (by omega)
    rw [declares,bindAll_value? Closure.opened_inside (by rwa [names]),Closure.opened_value?,
      Option.or_none]
    exact (lookup_zip_isSome (by omega) name).mpr member
  have failed : Host.bindParameters world.store.scopes.size span (name :: behind)
      (given.drop before.length) after = .error ⟨.duplicateDeclaration name,span⟩ after := by
    obtain ⟨value,others,left⟩ : ∃ value others, given.drop before.length = value :: others :=
      List.exists_cons_of_ne_nil (by simpa using room)
    rw [left,Host.bindParameters]
    change EStateM.bind (Act.located span (Act.declare _ name value false)) _ after = _
    rw [EStateM.bind,located_declare.1 taken]
  refine ⟨after,?_,same.objects,fun scope inside => ?_⟩
  · rw [call_enough enough,parts,bound,failed]
  · rw [same.others scope (Nat.ne_of_lt inside),Closure.opened_scope inside]

end

/-! What a call does not depend on. -/

/-- How deep calls may nest at first makes no difference to a call at a given depth. -/
theorem Host.call_bounded (host : Host) (bound depth : Nat) :
    ({host with depth := bound} : Host).call depth = host.call depth := by
  induction depth with
  | zero => rfl
  | succ depth ih =>
    funext callee given caller span
    cases callee with
    | native function =>
      rw [call,call,ih]
      rfl
    | closure function => rw [call,call,ih]
    | number | boolean | null | object => rfl

/-- A body runs at any depth as a program does in a host of that depth. -/
theorem Eval.body_eq_runFrom (host : Host) (depth : Nat) (statements : List Statement) :
    Eval.body (host.call depth) scope statements =
      ({host with depth := depth} : Host).runFrom scope .null statements := by
  rw [← host.call_bounded depth depth]
  rfl

private theorem Eval.body_error {depth : Nat} {done : List Statement} {content : Statement}
    {value : Value} {middle after : World} {error : RuntimeError}
    (ran : Eval.body (host.call depth) scope done world = .ok value middle)
    (failed : Eval.statement (host.call depth) scope content middle = .error error after)
    (rest : List Statement) :
    Eval.body (host.call depth) scope (done ++ content :: rest) world = .error error after := by
  rw [body_eq_runFrom] at ran ⊢
  rw [← host.call_bounded depth depth] at failed
  exact Host.Stops.outcome ⟨value,middle,ran,failed⟩ rest

private theorem SameButLog.bindAll {first second : World} (same : SameButLog first second)
    (pairs : List (String × Value)) :
    SameButLog (first.bindAll scope pairs) (second.bindAll scope pairs) := by
  induction pairs generalizing first second with
  | nil => exact same
  | cons pair pairs ih =>
    apply ih
    exact ⟨by dsimp only; rw [same.store],same.printed,same.clock⟩

private theorem zip_take_length (names : List String) (values : List Value) :
    names.zip (values.take names.length) = names.zip values := by
  induction names generalizing values with
  | nil => rfl
  | cons name names ih => cases values <;> simp [ih]

section
variable {function : Closure} {given given' : List Value}

private theorem Closure.entered_alike (world : World)
    (same : given'.take function.parameters.length =
      given.take function.parameters.length) :
    SameButLog (function.entered given world) (function.entered given' world) := by
  have pairs : function.parameters.zip given' = function.parameters.zip given := by
    rw [← zip_take_length,same,zip_take_length]
  have opened : SameButLog (function.opened given world) (function.opened given' world) :=
    ⟨rfl,rfl,rfl⟩
  rw [entered,entered,pairs]
  exact opened.bindAll _

/-- Neither the caller nor further arguments make a difference to a call. -/
theorem call_alike (ignores : host.IgnoresLog)
    (enough : function.parameters.length ≤ given.length) (distinct : function.parameters.Nodup)
    (same : given'.take function.parameters.length = given.take function.parameters.length)
    (depth : Nat) (caller caller' : ScopeId) :
    let outcome := host.call (depth + 1) (.closure function) given caller span world
    let outcome' := host.call (depth + 1) (.closure function) given' caller' span world
    answerOf outcome' = answerOf outcome ∧
      SameButLog (stateAfter outcome) (stateAfter outcome') := by
  have enough' : function.parameters.length ≤ given'.length := by
    have lengths := congrArg List.length same
    rw [List.length_take,List.length_take] at lengths
    omega
  have honours : ({host with depth := depth} : Host).Honours .unlogged := ignores
  have owned : Accord.unlogged.owned world.store.scopes.size := trivial
  have matched := Accord.evaluate_governed Accord.unlogged_lawful honours owned
    ⟨function.body,span⟩ (Closure.entered_alike world same)
  rw [Host.evaluate_eq_runFrom,← Eval.body_eq_runFrom] at matched
  rw [call_entered enough distinct,call_entered enough' distinct]
  generalize Eval.body _ _ _ (function.entered given world) = outcome at matched ⊢
  generalize Eval.body _ _ _ (function.entered given' world) = outcome' at matched ⊢
  cases matched with
  | ok held related => exact ⟨rfl,related⟩
  | error related => exact ⟨rfl,related⟩

end

/-! Declarations in a body. -/

def Eval.initializer (call : Call) (scope : ScopeId) (content : Declaration) : Eval Value :=
  match content.value with
  | some tree => expression call scope tree
  | none => pure .null

private theorem Eval.statement_declaration {call : Call} {content : Declaration} {value : Value}
    {late : World} (started : Eval.initializer call scope content
      {world with events := .statement content.span :: world.events} = .ok value late) :
    Eval.statement call scope (.declaration content) world =
      Act.located content.span
        (Act.declare scope content.identifier.name value content.constant) late := by
  change Eval.declaration call scope content
    {world with events := .statement content.span :: world.events} = _
  unfold Eval.initializer at started
  rw [Eval.declaration]
  cases given : content.value with
  | none =>
    rw [given] at started
    obtain ⟨rfl,rfl⟩ := EStateM.Result.ok.inj started
    rfl
  | some tree =>
    rw [given] at started
    change Eval.expression call scope tree _ = _ at started
    change EStateM.bind (Eval.expression call scope tree) _ _ = _
    rw [EStateM.bind,started]

section
variable (quiet : host.DeclaresNothing) (confined : host.Confined)
include quiet confined

private theorem initializer_gains (depth : Nat) (content : Declaration)
    (formed : world.store.WellFormed)
    (inside : scope < world.store.scopes.size) : Gains scope [] world.store
      (stateAfter (Eval.initializer (host.call depth) scope content world)).store := by
  unfold Eval.initializer
  cases content.value with
  | none => exact .none (.refl _) (.refl _) inside
  | some tree =>
    have quiet : ({host with depth := depth} : Host).DeclaresNothing := quiet
    have gains := expression_gains quiet confined tree formed inside
    rwa [Host.callValue,host.call_bounded] at gains

/-- Names in the scope of a body are those it began with and those of its own declarations. -/
theorem body_gains {depth : Nat} {done : List Statement} {value : Value} {middle : World}
    (formed : world.store.WellFormed) (inside : scope < world.store.scopes.size)
    (ran : Eval.body (host.call depth) scope done world = .ok value middle) :
    Gains scope (declarationsOf done) world.store middle.store := by
  have quiet : ({host with depth := depth} : Host).DeclaresNothing := quiet
  have adds := runFrom_adds quiet confined done .null formed inside
  rw [← Eval.body_eq_runFrom,ran] at adds
  exact adds

section
variable {function : Closure} {given : List Value}
  (enough : function.parameters.length ≤ given.length) (distinct : function.parameters.Nodup)
include enough distinct

omit quiet confined in
private theorem Closure.entered_declares (name : String) :
    (function.entered given world).store.declares name world.store.scopes.size = true ↔
      name ∈ function.parameters := by
  rw [declares,(entered_enters enough distinct).values]
  exact lookup_zip_isSome enough name

omit quiet confined in
private theorem Closure.entered_formed (formed : world.store.WellFormed)
    (made : function.scope < world.store.scopes.size)
    (held : ∀ value ∈ given, world.store.Holds value) :
    (function.entered given world).store.WellFormed := by
  have older : ∀ id ∈ some function.scope, id < world.store.scopes.size := by simpa using made
  have opened : (function.opened given world).store.WellFormed := addScope_sound formed older
  have kept : Keeps Holds (function.opened given world) (fun _ _ => True)
      (Host.bindParameters world.store.scopes.size Span.empty function.parameters given
        (function.opened given world)) :=
    bindParameters_keeps opened fun value member => (held value member).mono (addScope_evolves _)
  rw [bindParameters_entered enough distinct] at kept
  exact (kept.1.keep opened).1

/-- A declaration of a body fails exactly if its name is a parameter or was declared before. -/
theorem declaration_in_body (formed : world.store.WellFormed)
    (made : function.scope < world.store.scopes.size)
    (held : ∀ value ∈ given, world.store.Holds value) {depth : Nat} {done : List Statement}
    {content : Declaration} {value result : Value} {middle late : World}
    (ran : Eval.body (host.call depth) world.store.scopes.size done
      (function.entered given world) = .ok value middle)
    (started : Eval.initializer (host.call depth) world.store.scopes.size content
      {middle with events := .statement content.span :: middle.events} = .ok result late) :
    late.store.declares content.identifier.name world.store.scopes.size = true ↔
      content.identifier.name ∈ function.parameters ∨
        ∃ earlier ∈ declarationsOf done, earlier.identifier.name = content.identifier.name := by
  have formed' := Closure.entered_formed enough distinct formed made held
  have inside : world.store.scopes.size < (function.entered given world).store.scopes.size := by
    rw [(Closure.entered_enters enough distinct).size]
    exact Nat.lt_succ_self _
  have first := body_gains quiet confined formed' inside ran
  have kept : Keeps Holds (function.entered given world) Holds (Eval.body (host.call depth)
      world.store.scopes.size done (function.entered given world)) :=
    body_keeps (call_obeys confined depth) formed' inside
  rw [ran] at kept
  have second := @initializer_gains host
    {middle with events := .statement content.span :: middle.events} world.store.scopes.size
    quiet confined depth content (kept.1.keep formed').1 (Nat.lt_of_lt_of_le inside first.size)
  rw [started] at second
  change Gains _ _ _ late.store at second
  have later := second.names content.identifier.name
  rw [first.names,Closure.entered_declares enough distinct] at later
  simpa using later

end
end

/-- A function with fewer arguments than parameters is not entered and changes nothing but the
log. With a repeated parameter it fails at the call and leaves scopes and objects as they were.
Otherwise its body runs in a new scope that holds the parameters; the caller and further arguments
make no difference, and a declaration of the body that has its value fails, and the call with it,
exactly for a name that is a parameter or was declared before. In no case does a scope that was
there gain a name. -/
theorem calls_enter_functions (quiet : host.DeclaresNothing) (confined : host.Confined)
    (ignores : host.IgnoresLog) (formed : world.store.WellFormed) {function : Closure}
    (made : function.scope < world.store.scopes.size) {given : List Value}
    (held : ∀ value ∈ given, world.store.Holds value) (depth : Nat) (caller : ScopeId)
    (span : Span) :
    let outcome := host.call (depth + 1) (.closure function) given caller span world
    let fresh := world.store.scopes.size
    (given.length < function.parameters.length → outcome =
      .error ⟨.arityMismatch function.name function.parameters.length given.length,span⟩
        {world with events := .call function.name given.length :: world.events}) ∧
    (function.parameters.length ≤ given.length → ¬ function.parameters.Nodup →
      ∃ name after, FirstRepeated name function.parameters ∧
        outcome = .error ⟨.duplicateDeclaration name,span⟩ after ∧
        after.store.objects = world.store.objects ∧
        ∀ scope, scope < fresh → after.store.scopes[scope]? = world.store.scopes[scope]?) ∧
    (function.parameters.length ≤ given.length → function.parameters.Nodup →
      ∃ entry, function.Enters given world entry ∧
        outcome = Eval.body (host.call depth) fresh function.body entry ∧
        (∀ given' caller',
          given'.take function.parameters.length = given.take function.parameters.length →
          let outcome' := host.call (depth + 1) (.closure function) given' caller' span world
          answerOf outcome' = answerOf outcome ∧
            SameButLog (stateAfter outcome) (stateAfter outcome')) ∧
        ∀ done content rest, function.body = done ++ .declaration content :: rest →
          ∀ value middle, Eval.body (host.call depth) fresh done entry = .ok value middle →
          ∀ result late, Eval.initializer (host.call depth) fresh content
            {middle with events := .statement content.span :: middle.events} = .ok result late →
          let declared := Eval.statement (host.call depth) fresh (.declaration content) middle
          let taken := content.identifier.name ∈ function.parameters ∨
            ∃ earlier ∈ declarationsOf done, earlier.identifier.name = content.identifier.name
          let failure : RuntimeError := ⟨.duplicateDeclaration content.identifier.name,content.span⟩
          (taken → declared = .error failure late ∧ outcome = .error failure late) ∧
          (¬ taken → ∃ after, declared = .ok result after)) ∧
    ∀ scope name, scope < fresh → (stateAfter outcome).store.declares name scope = true →
      world.store.declares name scope = true := by
  intro outcome fresh
  refine ⟨fun fewer => call_few fewer depth caller,?_,?_,?_⟩
  · intro enough repeated
    obtain ⟨name,first⟩ := exists_firstRepeated repeated
    obtain ⟨after,failed,objects,others⟩ := call_repeated enough first depth caller
    exact ⟨name,after,first,failed,objects,others⟩
  · intro enough distinct
    refine ⟨function.entered given world,Closure.entered_enters enough distinct,
      call_entered enough distinct depth caller,?_,?_⟩
    · intro given' caller' same
      exact call_alike ignores enough distinct same depth caller caller'
    · intro done content rest parts value middle ran result late started declared taken failure
      have known := declaration_in_body quiet confined enough distinct formed made held ran started
      have declaring : declared = _ := Eval.statement_declaration started
      constructor
      · intro here
        have failed : declared = .error failure late :=
          declaring.trans (located_declare.1 (known.mpr here))
        refine ⟨failed,(call_entered enough distinct depth caller).trans ?_⟩
        rw [parts]
        exact Eval.body_error ran failed rest
      · intro free
        rw [declaring]
        exact located_declare.2 (Bool.eq_false_iff.mpr fun here => free (known.mp here))
  · intro scope name inside declared
    have lawful := Accord.quiet_lawful world.store
    have serves := Accord.call_serves lawful (quiet world.store) (depth + 1)
    have governed := @serves (.closure function) given caller span trivial (fun _ _ => trivial)
      trivial
    exact governed.gainsNone.names inside declared

/-- `let y; let x;` as the body of a function of `x` fails at the second declaration, whatever else
the function is given, and leaves no `y` behind. -/
theorem calls_enter_functions_parameter :
    let world : World := ⟨Store.empty.addGlobal.2,"",[],fun _ => .ok 0⟩
    let own : Declaration := ⟨⟨"y",⟨4,5⟩⟩,false,none,⟨0,6⟩⟩
    let again : Declaration := ⟨⟨"x",⟨11,12⟩⟩,false,none,⟨7,13⟩⟩
    let function : Closure := ⟨3,"f",["x"],[.declaration own,.declaration again],0⟩
    let given : List Value := [.boolean true,.null]
    let outcome := Host.standard.call 1 (.closure function) given 0 ⟨0,4⟩ world
    Host.standard.DeclaresNothing ∧ Host.standard.Confined ∧ Host.standard.IgnoresLog ∧
      world.store.WellFormed ∧ function.scope < world.store.scopes.size ∧
      (∀ value ∈ given, world.store.Holds value) ∧
      (∃ after, outcome = .error ⟨.duplicateDeclaration "x",⟨7,13⟩⟩ after) ∧
      (stateAfter outcome).store.declares "y" 0 = false := by
  intro world own again function given outcome
  have formed : world.store.WellFormed :=
    ((addGlobal_touches Store.empty).keep empty_sound).1
  have made : function.scope < world.store.scopes.size := by decide +kernel
  have held : ∀ value ∈ given, world.store.Holds value := by simp [given,Holds]
  obtain ⟨-,-,enters,names⟩ := calls_enter_functions Host.standard_declaresNothing
    Host.standard_confined Host.standard_ignoresLog formed made held 0 0 ⟨0,4⟩
  obtain ⟨entry,-,-,-,declares⟩ := enters (by decide) (by decide)
  obtain ⟨middle,first⟩ :=
    (declares [] own [.declaration again] rfl .null entry rfl .null _ rfl).2 (by decide)
  have ran : Eval.body (Host.standard.call 0) world.store.scopes.size [.declaration own] entry =
      .ok .null middle := by
    change EStateM.bind (Eval.statement (Host.standard.call 0) world.store.scopes.size
      (.declaration own)) _ entry = _
    rw [EStateM.bind,first]
    rfl
  have second := declares [.declaration own] again [] rfl .null middle ran .null _ rfl
  refine ⟨Host.standard_declaresNothing,Host.standard_confined,Host.standard_ignoresLog,formed,made,
    held,⟨_,(second.1 (.inl (by decide))).2⟩,?_⟩
  refine Bool.eq_false_iff.mpr fun found => ?_
  exact absurd (names 0 "y" made found) (by decide +kernel)

end Scriptlet
