import Scriptlet.Proofs.Eval.Accord
import Scriptlet.Proofs.Store.History

/-! What stores hold. Evaluation stores numbers, null, new objects and values that it was given or
that were stored before. So a property of values that numbers, null and objects have is kept by
every run. -/
namespace Scriptlet

namespace Store

/-- The value of a variable or of a property. -/
inductive Stored (store : Store) : Value → Prop where
  | inScope {place : ScopeId} {content : Scope} {entry : String × Value}
      (found : store.scopes[place]? = some content)
      (member : entry ∈ content.values.entries) : Stored store entry.2
  | inObject {object : ObjectId} {table : Table Value} {entry : String × Value}
      (found : store.objects[object]? = some table)
      (member : entry ∈ table.entries) : Stored store entry.2

def Only (held : Value → Prop) (store : Store) : Prop := ∀ value, store.Stored value → held value

variable {store : Store} {held : Value → Prop} {value stored : Value} {name : String}

private theorem stored_value? {scope : ScopeId} (found : store.value? scope name = some value) :
    store.Stored value := by
  obtain ⟨content,inside,got⟩ := Option.bind_eq_some_iff.mp found
  exact .inScope inside (Table.mem_of_get? got)

theorem stored_property? {object : ObjectId} (found : store.property? object name = some value) :
    store.Stored value := by
  obtain ⟨table,inside,got⟩ := Option.bind_eq_some_iff.mp found
  exact .inObject inside (Table.mem_of_get? got)

theorem stored_lookup {scope : ScopeId} (found : store.lookup scope name = .ok value) :
    store.Stored value := by
  unfold lookup at found
  split at found
  · next stored =>
    obtain rfl := Except.ok.inj found
    obtain ⟨owner,_,got⟩ := Option.bind_eq_some_iff.mp stored
    exact stored_value? got
  · cases found

private theorem stored_bind {scope : ScopeId} {constant : Bool}
    (found : (store.bind scope name value constant).Stored stored) :
    stored = value ∨ store.Stored stored := by
  cases found with
  | @inScope place content entry found member =>
    simp only [bind,Array.getElem?_modify] at found
    split at found
    · obtain ⟨before,inside,rfl⟩ := Option.map_eq_some_iff.mp found
      rcases before.values.entries_insert name value entry member with rfl | member
      · exact .inl rfl
      · exact .inr (.inScope inside member)
    · exact .inr (.inScope found member)
  | inObject found member => exact .inr (.inObject found member)

theorem stored_addScope {parent : Option ScopeId}
    (found : (store.addScope parent).2.Stored stored) : store.Stored stored := by
  cases found with
  | inScope found member =>
    rw [scope_addScope] at found
    split at found
    · obtain rfl := Option.some.inj found
      cases member
    · exact .inScope found member
  | inObject found member => exact .inObject found member

private theorem stored_addObject {table : Table Value}
    (found : (store.addObject table).2.Stored stored) :
    (∃ entry ∈ table.entries, entry.2 = stored) ∨ store.Stored stored := by
  cases found with
  | inScope found member => exact .inr (.inScope found member)
  | inObject found member =>
    simp only [addObject,Array.getElem?_push] at found
    split at found
    · obtain rfl := Option.some.inj found
      exact .inl ⟨_,member,rfl⟩
    · exact .inr (.inObject found member)

private theorem stored_writeProperty {object : ObjectId}
    (found : (store.writeProperty object name value).Stored stored) :
    stored = value ∨ store.Stored stored := by
  cases found with
  | inScope found member => exact .inr (.inScope found member)
  | @inObject place table entry found member =>
    simp only [writeProperty,Array.getElem?_modify] at found
    split at found
    · obtain ⟨before,inside,rfl⟩ := Option.map_eq_some_iff.mp found
      rcases before.entries_insert name value entry member with rfl | member
      · exact .inl rfl
      · exact .inr (.inObject inside member)
    · exact .inr (.inObject found member)

theorem Only.bind (only : store.Only held) (fit : held value) {scope : ScopeId} {constant : Bool} :
    (store.bind scope name value constant).Only held := by
  intro stored found
  rcases stored_bind found with rfl | before
  · exact fit
  · exact only stored before

theorem Only.furnish {constants : List (String × Value)} (only : store.Only held)
    (fit : ∀ constant ∈ constants, held constant.2) {scope : ScopeId} :
    Only held (constants.foldl (fun store constant =>
      store.bind scope constant.1 constant.2 true) store) := by
  induction constants generalizing store with
  | nil => exact only
  | cons constant rest ih =>
    exact ih (only.bind (fit constant (by simp))) fun other member => fit other (by simp [member])

theorem Only.addObject (only : store.Only held) {table : Table Value}
    (fit : ∀ entry ∈ table.entries, held entry.2) : (store.addObject table).2.Only held := by
  intro stored found
  rcases stored_addObject found with ⟨entry,member,rfl⟩ | before
  · exact fit entry member
  · exact only stored before

theorem Only.writeProperty (only : store.Only held) (fit : held value) {object : ObjectId} :
    (store.writeProperty object name value).Only held := by
  intro stored found
  rcases stored_writeProperty found with rfl | before
  · exact fit
  · exact only stored before

end Store

namespace Accord

variable {accord : Accord} {held : Value → Prop} {ε α : Type} {fits wider : α → Prop}

/-- The accord with a property of all values that are used or stored. -/
def storing (accord : Accord) (held : Value → Prop) : Accord where
  related first second := accord.related first second ∧ first.store.Only held
  value value := accord.value value ∧ held value
  scope := accord.scope
  owned := accord.owned

theorem Governs.storing {act : Act ε α} (governed : accord.Governs fits act)
    (kept : ∀ world, world.store.Only held → (stateAfter (act world)).store.Only held)
    (given : ∀ world value after, world.store.Only held → act world = .ok value after →
      fits value → wider value) : (accord.storing held).Governs wider act := by
  rintro first second ⟨related,only⟩
  have matched := governed related
  have later := kept first only
  have fit := fun value after => given first value after only
  revert matched later fit
  generalize act first = outcome
  generalize act second = outcome'
  intro matched later fit
  cases matched with
  | ok held related => exact .ok (fit _ _ rfl held) ⟨related,later⟩
  | error related => exact .error ⟨related,later⟩

theorem Governs.storing_still {act : Act ε α} (governed : accord.Governs fits act)
    (still : ∀ world, (stateAfter (act world)).store = world.store)
    (given : ∀ world value after, world.store.Only held → act world = .ok value after →
      fits value → wider value) : (accord.storing held).Governs wider act := by
  refine governed.storing (fun world only => ?_) given
  rw [still]
  exact only

theorem Stepwise.storing (steps : accord.Stepwise) (number : ∀ value, held (.number value))
    (null : held .null) (object : ∀ id, held (.object id)) : (accord.storing held).Stepwise where
  number value := ⟨steps.number value,number value⟩
  null := ⟨steps.null,null⟩
  owned := steps.owned
  log {_ _} := steps.log.storing_still (fun _ => rfl) fun _ _ _ _ _ => id
  lookup {scope name} inside := by
    refine (steps.lookup inside).storing_still (fun world => ?_)
      fun world value after only ok fit => ?_
    · rw [Act.lookup_apply]
      cases world.store.lookup scope name <;> rfl
    · rw [Act.lookup_apply] at ok
      split at ok
      · next found =>
        obtain ⟨rfl,_⟩ := EStateM.Result.ok.inj ok
        exact ⟨fit,only _ (Store.stored_lookup found)⟩
      · cases ok
  declare {scope name value constant} owned fit := by
    refine (steps.declare owned fit.1).storing (fun world only => ?_)
      fun world result after _ ok fit' => ?_
    · rw [Act.declare_apply]
      cases declared : world.store.declare scope name value constant with
      | error fault => exact only
      | ok store =>
        obtain ⟨_,rfl⟩ := Store.declare_ok.mp declared
        exact only.bind fit.2
    · rw [Act.declare_apply] at ok
      split at ok
      · cases ok
      · obtain ⟨rfl,_⟩ := EStateM.Result.ok.inj ok
        exact fit
  assign {scope name value} inside fit := by
    refine (steps.assign inside fit.1).storing (fun world only => ?_)
      fun world result after _ ok fit' => ?_
    · rw [Act.assign_apply]
      cases assigned : world.store.assign scope name value with
      | error fault => exact only
      | ok store =>
        obtain ⟨_,_,_,rfl⟩ := Store.assign_ok.mp assigned
        exact only.bind fit.2
    · rw [Act.assign_apply] at ok
      split at ok
      · cases ok
      · obtain ⟨rfl,_⟩ := EStateM.Result.ok.inj ok
        exact fit
  addObject {ε table} fit := by
    refine (steps.addObject fun entry member => (fit entry member).1).storing
      (fun world only => only.addObject fun entry member => (fit entry member).2)
      fun world result after _ ok fit' => ?_
    obtain ⟨rfl,_⟩ := EStateM.Result.ok.inj ok
    exact ⟨fit',object _⟩
  readProperty {object key span} known := by
    refine (steps.readProperty known.1).storing_still (fun world => ?_)
      fun world value after only ok fit => ?_
    · rw [Eval.readProperty_apply]
      cases world.store.property? object key <;> rfl
    · rw [Eval.readProperty_apply] at ok
      split at ok
      · next found =>
        obtain ⟨rfl,_⟩ := EStateM.Result.ok.inj ok
        exact ⟨fit,only _ (Store.stored_property? found)⟩
      · cases ok
  writeProperty {ε object key value} known fit :=
    (steps.writeProperty known.1 fit.1).storing (fun _ only => only.writeProperty fit.2)
      fun _ _ _ _ _ => id

theorem Lawful.storing (lawful : accord.Lawful) (number : ∀ value, held (.number value))
    (null : held .null) (object : ∀ id, held (.object id)) : (accord.storing held).Lawful where
  toStepwise := lawful.toStepwise.storing number null object
  closure known := lawful.closure known.1
  addScope inside := (lawful.addScope inside).storing
    (fun _ only stored found => only stored (Store.stored_addScope found)) fun _ _ _ _ _ => id
  print fit := by
    refine (lawful.print fun value member => (fit value member).1).storing_still (fun _ => rfl)
      fun world value after _ ok fit' => ?_
    obtain ⟨rfl,_⟩ := EStateM.Result.ok.inj ok
    exact ⟨fit',null⟩
  readClock {_} := lawful.readClock.storing_still (fun _ => rfl) fun _ _ _ _ _ => id

/-! One run with an invariant. -/

def keeping (holds : World → Prop) : Accord where
  related first second := second = first ∧ holds first
  value _ := True
  scope _ := True
  owned _ := True

theorem keeping_governs {holds : World → Prop} {act : Act ε α}
    (kept : ∀ world, holds world → holds (stateAfter (act world))) :
    (keeping holds).Governs (fun _ => True) act := by
  rintro _ world ⟨rfl,before⟩
  have later := kept world before
  revert later
  cases act world with
  | ok value after => exact fun later => .ok trivial ⟨rfl,later⟩
  | error reason after => exact fun later => .error ⟨rfl,later⟩

abbrev alone : Accord := keeping fun _ => True

private theorem alone_governs {act : Act ε α} : alone.Governs (fun _ => True) act :=
  keeping_governs fun _ _ => trivial

private theorem alone_lawful : alone.Lawful where
  number _ := trivial
  null := trivial
  owned _ := trivial
  log {_ _} := alone_governs
  lookup _ := alone_governs
  declare _ _ := alone_governs
  assign _ _ := alone_governs
  addObject _ := alone_governs
  readProperty _ := alone_governs
  writeProperty _ _ := alone_governs
  closure _ := trivial
  addScope _ := alone_governs
  print _ := alone_governs
  readClock {_} := alone_governs

end Accord

/-! The functions of a store. -/

/-- No function, or one of those given. -/
def Value.Among (functions : Closure → Prop) : Value → Prop
  | .closure function => functions function
  | _ => True

/-- Custom routines make no functions: if all there are in the store, the arguments and the answers
of calls are among some, so are all that they store and return. -/
def Host.MakesNoFunctions (host : Host) : Prop :=
  ∀ functions : Closure → Prop, host.Honours (Accord.alone.storing (Value.Among functions))

theorem Accord.Lawful.among {accord : Accord} (lawful : accord.Lawful)
    (functions : Closure → Prop) : (accord.storing (Value.Among functions)).Lawful :=
  lawful.storing (fun _ => trivial) trivial fun _ => trivial

theorem Host.standard_honours (accord : Accord) : Host.standard.Honours accord := by
  intro label invoke arguments scope _ _ _
  exact Accord.governs_throw

/-- An error points to a node of the program, or to one in the body of a function that the store
held when the program began. -/
theorem Host.evaluate_error_span {host : Host} (makesNone : host.MakesNoFunctions)
    {scope : ScopeId} {program : Program} {world after : World} {error : RuntimeError}
    (failed : host.evaluate scope program world = .error error after) :
    error.span ∈ program.spans ∨
      ∃ function, world.store.Stored (.closure function) ∧ error.span ∈ function.spans := by
  let functions (function : Closure) : Prop := world.store.Stored (.closure function)
  let known (span : Span) : Prop :=
    span ∈ program.spans ∨ ∃ function, functions function ∧ span ∈ function.spans
  let accord := Accord.alone.storing (Value.Among functions)
  have lawful : accord.Lawful := Accord.alone_lawful.among functions
  have told : ∀ span ∈ program.spans,
      accord.Tells (fun first second => first = second ∧ known first.span) span (id span) :=
    fun span member => lawful.tells fun _ _ => ⟨rfl,.inl member⟩
  have bodies : ∀ function, accord.value (.closure function) → ∀ span ∈ function.spans,
      ∀ fault : Fault, (⟨fault,span⟩ : RuntimeError) = ⟨fault,span⟩ ∧ known span :=
    fun function among span member _ => ⟨rfl,.inr ⟨function,among.2,member⟩⟩
  have only : world.store.Only (Value.Among functions) := by
    intro value stored
    cases value with
    | closure function => exact stored
    | _ => trivial
  have byPlace : Accord.ByPlace fun first second => first = second ∧ known first.span := by
    rintro span span' fault fault' ⟨same,place⟩
    exact ⟨Accord.byPlace_eq same,place⟩
  have owned : accord.owned scope := trivial
  have follows := Accord.evaluate_follows lawful (makesNone functions) owned byPlace bodies program
    told
  rw [program.mapSpans_id] at follows
  have met := @follows world world ⟨⟨rfl,trivial⟩,only⟩
  rw [failed] at met
  cases met with
  | error told _ => exact told.2

end Scriptlet
