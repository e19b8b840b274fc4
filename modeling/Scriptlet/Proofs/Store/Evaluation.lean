import Scriptlet.Proofs.Eval.Steps
import Scriptlet.Proofs.Store.Touch

/-! Evaluation changes a store by touches only, whether it succeeds or fails, as long as the
calls it makes do; and what it evaluates to fits the store it leaves. -/
namespace Scriptlet
open Store

variable {α β ε : Type} {world : World} {fits : Store → Value → Prop}

/-- What an outcome has made of the world: a store that was touched, and a result that belongs
to it. -/
def Keeps (fits : Store → Value → Prop) (world : World) (result : Store → α → Prop) :
    EStateM.Result ε World α → Prop
  | .ok value after => Touches fits world.store after.store ∧ result after.store value
  | .error _ after => Touches fits world.store after.store

theorem keeps_pure {result : Store → α → Prop} {value : α} (held : result world.store value) :
    Keeps fits world result ((pure value : Act ε α) world) := ⟨.refl,held⟩

theorem keeps_throw {result : Store → α → Prop} {reason : ε} :
    Keeps fits world result ((throw reason : Act ε α) world) := Relation.ReflTransGen.refl

theorem Keeps.since {result : Store → α → Prop} {after : World}
    {outcome : EStateM.Result ε World α} (touches : Touches fits world.store after.store)
    (kept : Keeps fits after result outcome) : Keeps fits world result outcome := by
  cases outcome with
  | error reason later => exact touches.trans kept
  | ok value later => exact ⟨touches.trans kept.1,kept.2⟩

/-! Single steps. -/

private theorem located_keeps {result : Store → α → Prop} {act : Act Fault α} {span : Span}
    (kept : Keeps fits world result (act world)) :
    Keeps fits world result (Act.located span act world) := by
  unfold Act.located
  cases outcome : act world with
  | error reason after =>
    rw [outcome] at kept
    exact kept
  | ok value after =>
    rw [outcome] at kept
    exact kept

private theorem unlocated_keeps {result : Store → α → Prop} {act : Eval α}
    (kept : Keeps fits world result (act world)) :
    Keeps fits world result (Act.unlocated act world) := by
  unfold Act.unlocated
  cases outcome : act world with
  | error reason after =>
    rw [outcome] at kept
    exact kept
  | ok value after =>
    rw [outcome] at kept
    exact kept

private theorem modify_keeps {result : Store → Unit → Prop} {change : World → World}
    (same : (change world).store = world.store) (held : result world.store ()) :
    Keeps fits world result ((modify change : Act ε Unit) world) := by
  refine ⟨?_,?_⟩
  · rw [same]
  · rw [same]
    exact held

theorem log_keeps {event : Event} :
    Keeps fits world (fun _ _ => True) (Act.log event world : EStateM.Result ε World Unit) :=
  modify_keeps rfl trivial

private theorem keeps_get {result : Store → α → Prop} {next : World → Act ε α}
    (kept : Keeps fits world result (next world world)) :
    Keeps fits world result ((get >>= next : Act ε α) world) := kept

theorem lookup_keeps {scope : ScopeId} {name : String} (formed : world.store.Sound fits) :
    Keeps fits world fits (Act.lookup scope name world) := by
  apply keeps_get
  unfold Store.lookup
  cases found : (world.store.resolve? scope name).bind (world.store.value? · name) with
  | none => exact keeps_throw
  | some value =>
    obtain ⟨owner,_,stored⟩ := Option.bind_eq_some_iff.mp found
    exact keeps_pure (formed.held stored)

theorem addScope_keeps {parent : Option ScopeId}
    (older : ∀ id ∈ parent, id < world.store.scopes.size) :
    Keeps fits world (fun store scope => scope < store.scopes.size)
      (Act.addScope parent world : EStateM.Result ε World ScopeId) := by
  refine ⟨.single (.scope parent older),?_⟩
  change world.store.scopes.size < (world.store.addScope parent).2.scopes.size
  rw [size_addScope]
  exact Nat.lt_succ_self _

private theorem writeProperty_keeps {object : ObjectId} {key : String} {value : Value}
    (held : fits world.store value) : Keeps fits world (fun _ _ => True)
      (Act.writeProperty object key value world : EStateM.Result ε World Unit) :=
  ⟨.single (.property object key value held),trivial⟩

private theorem keyText_keeps {key : Value} {span : Span} :
    Keeps fits world (fun _ _ => True) (Eval.keyText key span world) := by
  unfold Eval.keyText
  split
  · exact keeps_pure trivial
  · exact keeps_pure trivial
  · exact keeps_pure trivial
  · exact keeps_throw

private theorem objectOf_keeps {value : Value} {key : String} {span : Span} :
    Keeps fits world (fun _ _ => True) (Eval.objectOf value key span world) := by
  unfold Eval.objectOf
  split
  · exact keeps_pure trivial
  · exact keeps_throw

private theorem readProperty_keeps {object : ObjectId} {key : String} {span : Span}
    (formed : world.store.Sound fits) :
    Keeps fits world fits (Eval.readProperty object key span world) := by
  apply keeps_get
  cases found : world.store.property? object key with
  | none => exact keeps_throw
  | some value => exact keeps_pure (formed.property found)

variable [Fitting fits]

/-- One act after the other: the second starts in a sound store that evolved from the first
one's. -/
theorem keeps_bind {first : Act ε α} {next : α → Act ε β} {result : Store → α → Prop}
    {result' : Store → β → Prop} (formed : world.store.Sound fits)
    (start : Keeps fits world result (first world))
    (onward : ∀ value after, after.store.Sound fits → world.store.Evolves after.store →
      result after.store value → Keeps fits after result' (next value after)) :
    Keeps fits world result' ((first >>= next) world) := by
  change Keeps fits world result' (EStateM.bind first next world)
  unfold EStateM.bind
  cases outcome : first world with
  | error reason after =>
    rw [outcome] at start
    exact start
  | ok value after =>
    rw [outcome] at start
    obtain ⟨touches,held⟩ := start
    obtain ⟨formed',evolved⟩ := touches.keep formed
    exact (onward value after formed' evolved held).since touches

/-- The same, with the scope that the acts belong to. -/
private theorem keeps_bind_inside {first : Act ε α} {next : α → Act ε β}
    {result : Store → α → Prop} {result' : Store → β → Prop} {scope : ScopeId}
    (formed : world.store.Sound fits) (inside : scope < world.store.scopes.size)
    (start : Keeps fits world result (first world))
    (onward : ∀ value after, after.store.Sound fits → scope < after.store.scopes.size →
      world.store.Evolves after.store → result after.store value →
      Keeps fits after result' (next value after)) :
    Keeps fits world result' ((first >>= next) world) := by
  apply keeps_bind formed start
  intro value after formed evolved
  exact onward value after formed (Nat.lt_of_lt_of_le inside evolved.size) evolved

theorem declare_keeps {scope : ScopeId} {name : String} {value : Value} {constant : Bool}
    (formed : world.store.Sound fits) (held : fits world.store value) :
    Keeps fits world fits (Act.declare scope name value constant world) := by
  apply keeps_get
  cases ok : world.store.declare scope name value constant with
  | error fault => exact keeps_throw
  | ok store =>
    have touch : Touch fits world.store store := .declare held ok
    exact ⟨.single touch,Fitting.mono held (touch.evolves formed)⟩

theorem assign_keeps {scope : ScopeId} {name : String} {value : Value}
    (formed : world.store.Sound fits) (held : fits world.store value) :
    Keeps fits world fits (Act.assign scope name value world) := by
  apply keeps_get
  cases ok : world.store.assign scope name value with
  | error fault => exact keeps_throw
  | ok store =>
    have touch : Touch fits world.store store := .assign held ok
    exact ⟨.single touch,Fitting.mono held (touch.evolves formed)⟩

theorem addObject_keeps {properties : Table Value}
    (held : ∀ key value, properties.get? key = some value → fits world.store value) :
    Keeps fits world fits (Act.addObject properties world : EStateM.Result ε World Value) :=
  ⟨.single (.object properties held),Fitting.made⟩

theorem declareNative_keeps {scope : ScopeId} {name : String} {routine : Routine}
    (formed : world.store.Sound fits) :
    Keeps fits world fits (Act.declareNative scope name routine world) := by
  have made : Touches fits world.store (world.store.addNative name routine).2 :=
    .single (.native name routine)
  let after : World := {world with store := (world.store.addNative name routine).2}
  have rest : Keeps fits after fits (Act.declare scope name
      (.native (world.store.addNative name routine).1) true after) :=
    declare_keeps (made.keep formed).1 (Fitting.bare trivial)
  exact rest.since made

/-! Expressions. -/

/-- Calls change the store by touches only and return what fits. -/
def Obeys (fits : Store → Value → Prop) (call : Call) : Prop :=
  ∀ {callee : Value} {given : List Value} {scope : ScopeId} {span : Span} {world : World},
    world.store.Sound fits → fits world.store callee →
    (∀ value ∈ given, fits world.store value) → scope < world.store.scopes.size →
    Keeps fits world fits (call callee given scope span world)

private theorem operate_keeps {operator : Operator} {left right : Value} {span : Span} :
    Keeps fits world fits (Eval.operate operator left right span world) := by
  unfold Eval.operate
  split
  · exact keeps_pure (Fitting.bare trivial)
  · exact keeps_throw

section
variable {call : Call} {scope : ScopeId}

private theorem write_keeps {object : ObjectId} {key : String} {tree : Expr}
    (formed : world.store.Sound fits)
    (inside : Keeps fits world fits (Eval.expression call scope tree world)) :
    Keeps fits world fits ((do
      let value ← Eval.expression call scope tree
      Act.writeProperty object key value
      return value : Eval Value) world) := by
  apply keeps_bind formed inside
  intro value after formed' _ held
  apply keeps_bind formed' (writeProperty_keeps held)
  intro _ later _ evolved _
  exact keeps_pure (Fitting.mono held evolved)

mutual
theorem expression_keeps {world : World} (obeys : Obeys fits call)
    (tree : Expr) (formed : world.store.Sound fits)
    (inside : scope < world.store.scopes.size) :
    Keeps fits world fits (Eval.expression call scope tree world) := by
  cases tree with
  | number value span => exact keeps_pure (Fitting.bare trivial)
  | identifier name => exact located_keeps (lookup_keeps formed)
  | object content span =>
    rw [Eval.expression]
    have empty : ∀ key value, (Table.empty : Table Value).get? key = some value →
        fits world.store value := by simp [Table.get?,Table.empty]
    apply keeps_bind formed (properties_keeps obeys content formed inside empty)
    intro table after _ _ held
    exact addObject_keeps held
  | call callee given span =>
    rw [Eval.expression]
    apply keeps_bind_inside formed inside (expression_keeps obeys callee formed inside)
    intro value after formed inside evolved held
    apply keeps_bind_inside formed inside (arguments_keeps obeys given formed inside)
    intro values after formed inside evolved given
    exact obeys formed (Fitting.mono held evolved) given inside
  | binary operator left right span =>
    rw [Eval.expression]
    apply keeps_bind_inside formed inside (expression_keeps obeys left formed inside)
    intro value after formed inside _ _
    apply keeps_bind formed (expression_keeps obeys right formed inside)
    intro _ _ _ _ _
    exact operate_keeps
  | member object property span =>
    rw [Eval.expression]
    apply keeps_bind formed (expression_keeps obeys object formed inside)
    intro value after formed _ _
    apply keeps_bind formed objectOf_keeps
    intro id after formed _ _
    exact readProperty_keeps formed
  | index object key span =>
    rw [Eval.expression]
    apply keeps_bind_inside formed inside (expression_keeps obeys object formed inside)
    intro value after formed inside _ _
    apply keeps_bind formed (expression_keeps obeys key formed inside)
    intro name after formed _ _
    apply keeps_bind formed keyText_keeps
    intro text after formed _ _
    apply keeps_bind formed objectOf_keeps
    intro id after formed _ _
    exact readProperty_keeps formed
  | assign target value span =>
    cases target with
    | identifier name =>
      rw [Eval.expression]
      apply keeps_bind formed (expression_keeps obeys value formed inside)
      intro result after formed _ held
      exact located_keeps (assign_keeps formed held)
    | member object property span =>
      rw [Eval.expression]
      apply keeps_bind_inside formed inside (expression_keeps obeys object formed inside)
      intro holder after formed inside _ _
      apply keeps_bind_inside formed inside objectOf_keeps
      intro id after formed inside _ _
      exact write_keeps formed (expression_keeps obeys value formed inside)
    | index object key span =>
      rw [Eval.expression]
      apply keeps_bind_inside formed inside (expression_keeps obeys object formed inside)
      intro holder after formed inside _ _
      apply keeps_bind_inside formed inside (expression_keeps obeys key formed inside)
      intro name after formed inside _ _
      apply keeps_bind_inside formed inside keyText_keeps
      intro text after formed inside _ _
      apply keeps_bind_inside formed inside objectOf_keeps
      intro id after formed inside _ _
      exact write_keeps formed (expression_keeps obeys value formed inside)
    | number | assign | binary | object | call =>
      rw [Eval.expression]
      · exact keeps_throw
      all_goals simp

private theorem arguments_keeps {world : World} (obeys : Obeys fits call)
    (trees : List Expr) (formed : world.store.Sound fits)
    (inside : scope < world.store.scopes.size) :
    Keeps fits world (fun store values => ∀ value ∈ values, fits store value)
      (Eval.arguments call scope trees world) := by
  cases trees with
  | nil => exact keeps_pure (by simp)
  | cons first others =>
    rw [Eval.arguments]
    apply keeps_bind_inside formed inside (expression_keeps obeys first formed inside)
    intro value after formed inside evolved held
    apply keeps_bind formed (arguments_keeps obeys others formed inside)
    intro values after formed evolved rest
    exact keeps_pure (by simpa using ⟨Fitting.mono held evolved,rest⟩)

private theorem properties_keeps {world : World} (obeys : Obeys fits call)
    (trees : List Property) {table : Table Value}
    (formed : world.store.Sound fits) (inside : scope < world.store.scopes.size)
    (kept : ∀ key value, table.get? key = some value → fits world.store value) :
    Keeps fits world (fun store table => ∀ key value, table.get? key = some value →
      fits store value) (Eval.properties call scope trees table world) := by
  cases trees with
  | nil => exact keeps_pure kept
  | cons first others =>
    rw [Eval.properties]
    have first : Keeps fits world fits (Eval.propertyValue call scope first world) := by
      cases first with
      | shorthand key span => exact located_keeps (lookup_keeps formed)
      | valued key value span => exact expression_keeps obeys value formed inside
    apply keeps_bind_inside formed inside first
    intro value after formed inside evolved held
    apply properties_keeps obeys others formed inside
    intro key other found
    rw [Table.get?_insert] at found
    split at found
    · exact Option.some.inj found ▸ held
    · exact Fitting.mono (kept key other found) evolved
end

private theorem declaration_keeps {content : Declaration} (obeys : Obeys fits call)
    (formed : world.store.Sound fits) (inside : scope < world.store.scopes.size) :
    Keeps fits world fits (Eval.declaration call scope content world) := by
  rw [Eval.declaration]
  cases content.value with
  | none => exact located_keeps (declare_keeps formed (Fitting.bare trivial))
  | some tree =>
    apply keeps_bind formed (expression_keeps obeys tree formed inside)
    intro value after formed _ held
    exact located_keeps (declare_keeps formed held)

theorem statement_keeps {content : Statement} (obeys : Obeys fits call)
    (formed : world.store.Sound fits) (inside : scope < world.store.scopes.size) :
    Keeps fits world fits (Eval.statement call scope content world) := by
  apply keeps_bind_inside formed inside log_keeps
  intro _ after formed inside _ _
  cases content with
  | declaration content => exact declaration_keeps obeys formed inside
  | expression content => exact expression_keeps obeys content formed inside

theorem body_keeps {statements : List Statement} (obeys : Obeys fits call)
    (formed : world.store.Sound fits) (inside : scope < world.store.scopes.size) :
    Keeps fits world fits (Eval.body call scope statements world) := by
  unfold Eval.body
  have any (initial : Value) (held : fits world.store initial) : Keeps fits world fits
      (statements.foldlM (fun _ content => Eval.statement call scope content) initial world) := by
    induction statements generalizing world initial with
    | nil => exact keeps_pure held
    | cons first others ih =>
      rw [List.foldlM_cons]
      apply keeps_bind_inside formed inside (statement_keeps obeys formed inside)
      intro value after formed inside _ held
      exact ih formed inside value held
  exact any .null (Fitting.bare trivial)

end

/-! Calls. -/

/-- Custom routines reach the store only through the operations of the language: given calls
that keep it, they keep it. -/
def Host.Confines (host : Host) (fits : Store → Value → Prop) : Prop :=
  ∀ {label : String} {invoke : Value → List Value → ScopeId → Act Fault Value}
    {arguments : List Value} {scope : ScopeId} {world : World},
    (∀ {callee : Value} {given : List Value} {caller : ScopeId} {world : World},
      world.store.Sound fits → fits world.store callee →
      (∀ value ∈ given, fits world.store value) → caller < world.store.scopes.size →
      Keeps fits world fits (invoke callee given caller world)) →
    world.store.Sound fits → (∀ value ∈ arguments, fits world.store value) →
    scope < world.store.scopes.size →
    Keeps fits world fits (host.custom label invoke arguments scope world)

abbrev Host.Confined (host : Host) : Prop := host.Confines Holds

omit [Fitting fits] in
theorem Host.standard_confines : Host.standard.Confines fits := by
  intro label invoke arguments scope world _ _ _ _
  exact keeps_throw

theorem Host.standard_confined : Host.standard.Confined := standard_confines

private theorem print_keeps {arguments : List Value} :
    Keeps fits world fits (Host.print arguments world) :=
  ⟨.refl,Fitting.bare trivial⟩

private theorem time_keeps : Keeps fits world fits (Host.time world) := by
  rw [Host.time_apply]
  cases world.clock 0 with
  | ok reading => exact ⟨.refl,Fitting.bare trivial⟩
  | error message => exact .refl

theorem bindParameters_keeps {scope : ScopeId} {span : Span} {parameters : List String}
    {arguments : List Value} (formed : world.store.Sound fits)
    (held : ∀ value ∈ arguments, fits world.store value) : Keeps fits world (fun _ _ => True)
      (Host.bindParameters scope span parameters arguments world) := by
  induction parameters generalizing world arguments with
  | nil => exact keeps_pure trivial
  | cons parameter parameters ih =>
    cases arguments with
    | nil => exact keeps_pure trivial
    | cons argument arguments =>
      rw [Host.bindParameters]
      have first := held argument (by simp)
      apply keeps_bind formed (located_keeps (declare_keeps formed first))
      intro _ after formed evolved _
      apply ih formed
      intro value member
      exact Fitting.mono (held value (by simp [member])) evolved

private theorem enter_keeps {call : Call} (obeys : Obeys fits call) {function : Closure}
    {arguments : List Value} {span : Span} (formed : world.store.Sound fits)
    (made : function.scope < world.store.scopes.size)
    (held : ∀ value ∈ arguments, fits world.store value) :
    Keeps fits world fits (Host.enter call function arguments span world) := by
  unfold Host.enter
  split
  · exact keeps_throw
  · have older : ∀ id ∈ some function.scope, id < world.store.scopes.size := by simpa using made
    apply keeps_bind formed (addScope_keeps older)
    intro scope after formed evolved inside
    have given : ∀ value ∈ arguments, fits after.store value := evolved.all held
    apply keeps_bind_inside formed inside (bindParameters_keeps formed given)
    intro _ after formed inside _ _
    exact body_keeps obeys formed inside

private theorem routine_keeps {host : Host} (confined : host.Confines fits) {call : Call}
    (obeys : Obeys fits call) {arguments : List Value} {scope : ScopeId} {routine : Routine}
    (formed : world.store.Sound fits) (held : ∀ value ∈ arguments, fits world.store value)
    (inside : scope < world.store.scopes.size) :
    Keeps fits world fits (host.routine call arguments scope routine world) := by
  cases routine with
  | print => exact print_keeps
  | time => exact time_keeps
  | custom label =>
    refine confined ?_ formed held inside
    intro callee given caller world formed callable held inside
    exact unlocated_keeps (obeys formed callable held inside)

/-- Calls of any depth obey, once the custom routines are confined. -/
theorem call_obeys {host : Host} (confined : host.Confines fits) (depth : Nat) :
    Obeys fits (host.call depth) := by
  induction depth with
  | zero =>
    intro callee given scope span world _ _ _ _
    exact keeps_throw
  | succ depth ih =>
    intro callee given scope span world formed callable held inside
    cases callee with
    | native function =>
      apply keeps_bind_inside formed inside log_keeps
      intro _ after formed inside evolved _
      exact located_keeps (routine_keeps confined ih formed (evolved.all held) inside)
    | closure function =>
      apply keeps_bind_inside formed (Fitting.inside callable) log_keeps
      intro _ after formed made evolved _
      exact enter_keeps ih formed made (evolved.all held)
    | number | boolean | null | object => exact keeps_throw

theorem evaluate_keeps {host : Host} (confined : host.Confines fits) {scope : ScopeId}
    (formed : world.store.Sound fits) (inside : scope < world.store.scopes.size)
    (program : Program) :
    Keeps fits world fits (host.evaluate scope program world) :=
  body_keeps (call_obeys confined host.depth) formed inside

end Scriptlet
