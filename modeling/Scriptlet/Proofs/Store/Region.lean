import Mathlib.Data.List.Find
import Mathlib.Logic.Function.Basic
import Scriptlet.Proofs.Eval.Accord
import Scriptlet.Proofs.Store.Rendering

/-! What can be reached in a store, and regions that nothing leads out of. Reading from inside
such a region never depends on what is outside of it. -/
namespace Scriptlet

inductive Node where
  | scope (id : ScopeId)
  | object (id : ObjectId)
  deriving DecidableEq

inductive Cell where
  | scope (values : Table Value) (constant : String → Bool) (parent : Option ScopeId)
  | object (properties : Table Value)

/-- What a value leads to: an object, or the scope that a function was made in. -/
def Value.node? : Value → Option Node
  | .object id => some (.object id)
  | .closure function => some (.scope function.scope)
  | _ => none

namespace Cell

inductive Mentions : Cell → Node → Prop where
  | value {values constant parent entry node} (stored : entry ∈ values.entries)
      (leads : entry.2.node? = some node) : Mentions (.scope values constant parent) node
  | parent {values constant id} : Mentions (.scope values constant (some id)) (.scope id)
  | property {properties entry node} (stored : entry ∈ properties.entries)
      (leads : entry.2.node? = some node) : Mentions (.object properties) node

def write (name : String) (value : Value) (marked : Bool) : Cell → Cell
  | .scope values constant parent =>
    .scope (values.insert name value) (fun key => marked && decide (key = name) || constant key)
      parent
  | .object properties => .object (properties.insert name value)

theorem mentions_write {cell : Cell} {name : String} {value : Value} {marked : Bool} {node : Node}
    (mentions : (cell.write name value marked).Mentions node) :
    value.node? = some node ∨ cell.Mentions node := by
  cases cell with
  | scope values constant parent =>
    cases mentions with
    | value stored leads =>
      rcases values.entries_insert name value _ stored with rfl | before
      · exact .inl leads
      · exact .inr (.value before leads)
    | parent => exact .inr .parent
  | object properties =>
    cases mentions with
    | property stored leads =>
      rcases properties.entries_insert name value _ stored with rfl | before
      · exact .inl leads
      · exact .inr (.property before leads)

end Cell

namespace Store

variable {store store' first second : Store}

def cell (store : Store) : Node → Option Cell
  | .scope id => (store.scopes[id]?).map fun content =>
    .scope content.values (fun name => content.constants.contains name) content.parent
  | .object id => (store.objects[id]?).map .object

/-- What the roots lead to, by parents, stored values, properties and the scopes of functions. -/
inductive Reaches (store : Store) (roots : Node → Prop) : Node → Prop where
  | root {node} (given : roots node) : Reaches store roots node
  | step {node cell target} (reached : Reaches store roots node)
      (stored : store.cell node = some cell) (mentioned : cell.Mentions target) :
      Reaches store roots target

/-! Every change of a store is the change of one node. -/

theorem cell_bind (store : Store) (scope : ScopeId) (name : String) (value : Value)
    (constant : Bool) : (store.bind scope name value constant).cell =
      Function.update store.cell (.scope scope)
        ((store.cell (.scope scope)).map (Cell.write name value constant)) := by
  funext node
  cases node with
  | object id => simp [cell,bind]
  | scope id =>
    by_cases here : id = scope
    · subst here
      rw [Function.update_self]
      simp only [cell,bind,Array.getElem?_modify]
      cases store.scopes[id]? with
      | none => simp
      | some content => cases constant <;> simp [Cell.write]
    · rw [Function.update_of_ne (by simpa using here)]
      simp [cell,bind,Array.getElem?_modify,Ne.symm here]

theorem cell_addScope (store : Store) (parent : Option ScopeId) :
    (store.addScope parent).2.cell = Function.update store.cell (.scope store.scopes.size)
      (some (.scope .empty (fun _ => false) parent)) := by
  funext node
  cases node with
  | object id => simp [cell,addScope]
  | scope id =>
    simp only [cell,scope_addScope]
    by_cases here : id = store.scopes.size
    · simp [here]
    · rw [Function.update_of_ne (by simpa using here)]
      simp [cell,here]

theorem cell_addObject (store : Store) (properties : Table Value) :
    (store.addObject properties).2.cell = Function.update store.cell (.object store.objects.size)
      (some (.object properties)) := by
  funext node
  cases node with
  | scope id => simp [cell,addObject]
  | object id =>
    simp only [cell,addObject,Array.getElem?_push]
    by_cases here : id = store.objects.size
    · simp [here]
    · rw [Function.update_of_ne (by simpa using here)]
      simp [cell,here]

theorem cell_writeProperty (store : Store) (object : ObjectId) (key : String) (value : Value) :
    (store.writeProperty object key value).cell = Function.update store.cell (.object object)
      ((store.cell (.object object)).map (Cell.write key value false)) := by
  funext node
  cases node with
  | scope id => simp [cell,writeProperty]
  | object id =>
    by_cases here : id = object
    · subst here
      rw [Function.update_self]
      simp only [cell,writeProperty,Array.getElem?_modify]
      cases store.objects[id]? with
      | none => simp
      | some content => simp [Cell.write]
    · rw [Function.update_of_ne (by simpa using here)]
      simp [cell,writeProperty,Array.getElem?_modify,Ne.symm here]

/-! What is read of a node depends on its content only. -/

section
variable {scope : ScopeId} (same : second.cell (.scope scope) = first.cell (.scope scope))
include same

theorem value?_of_cell (name : String) : second.value? scope name = first.value? scope name := by
  simp only [cell] at same
  unfold value?
  cases content : first.scopes[scope]? <;> cases content' : second.scopes[scope]? <;>
    simp_all

theorem declares_of_cell (name : String) :
    second.declares name scope = first.declares name scope := by
  unfold declares
  rw [value?_of_cell same]

theorem isConstant_of_cell (name : String) :
    second.isConstant name scope = first.isConstant name scope := by
  simp only [cell] at same
  unfold isConstant
  cases content : first.scopes[scope]? <;> cases content' : second.scopes[scope]? <;>
    simp_all [funext_iff]

private theorem parent?_of_cell : second.parent? scope = first.parent? scope := by
  simp only [cell] at same
  unfold parent?
  cases content : first.scopes[scope]? <;> cases content' : second.scopes[scope]? <;>
    simp_all

theorem names_of_cell : second.names scope = first.names scope := by
  simp only [cell] at same
  unfold names
  cases content : first.scopes[scope]? <;> cases content' : second.scopes[scope]? <;>
    simp_all

end

theorem objects_of_cell {object : ObjectId}
    (same : second.cell (.object object) = first.cell (.object object)) :
    second.objects[object]? = first.objects[object]? := by
  simp only [cell] at same
  exact Option.map_injective (fun _ _ equal => Cell.object.inj equal) same

/-! Regions. -/

def Fits (region : Node → Prop) (value : Value) : Prop :=
  ∀ node, value.node? = some node → region node

theorem fits_of_none {region : Node → Prop} {value : Value} (plain : value.node? = none) :
    Fits region value := by
  intro node leads
  rw [plain] at leads
  cases leads

/-- Nothing leads out of the region, new nodes belong to it, and the other nodes are as they were
at the start. -/
structure Stays (region : Node → Prop) (start store : Store) : Prop where
  closed : ∀ {node cell target}, region node → store.cell node = some cell →
    cell.Mentions target → region target
  spare : ∀ {node}, store.cell node = none → region node
  outside : ∀ {node}, ¬region node → store.cell node = start.cell node

/-- Two stores with the same nodes, which have the same content inside the region. -/
structure Agrees (region : Node → Prop) (first second : Store) : Prop where
  scopes : second.scopes.size = first.scopes.size
  objects : second.objects.size = first.objects.size
  identities : second.identities = first.identities
  same : ∀ {node}, region node → second.cell node = first.cell node

variable {region : Node → Prop} {start : Store} {node : Node} {content : Option Cell}

theorem Stays.update (stays : Stays region start store) (inside : region node)
    (changed : store'.cell = Function.update store.cell node content)
    (held : ∀ cell ∈ content, ∀ target, cell.Mentions target → region target) :
    Stays region start store' where
  closed {other cell target} known stored mentioned := by
    rw [changed] at stored
    by_cases here : other = node
    · rw [here,Function.update_self] at stored
      exact held cell stored target mentioned
    · rw [Function.update_of_ne here] at stored
      exact stays.closed known stored mentioned
  spare {other} free := by
    by_cases here : other = node
    · exact here ▸ inside
    · rw [changed,Function.update_of_ne here] at free
      exact stays.spare free
  outside {other} apart := by
    have elsewhere : other ≠ node := fun here => apart (here ▸ inside)
    rw [changed,Function.update_of_ne elsewhere]
    exact stays.outside apart

theorem Agrees.update {first' second' : Store} (agrees : Agrees region first second)
    (changed : first'.cell = Function.update first.cell node content)
    (changed' : second'.cell = Function.update second.cell node content)
    (scopes : second'.scopes.size = first'.scopes.size)
    (objects : second'.objects.size = first'.objects.size)
    (identities : second'.identities = first'.identities) : Agrees region first' second' where
  scopes := scopes
  objects := objects
  identities := identities
  same {other} inside := by
    rw [changed,changed']
    by_cases here : other = node
    · rw [here,Function.update_self,Function.update_self]
    · rw [Function.update_of_ne here,Function.update_of_ne here]
      exact agrees.same inside

theorem Stays.reaches (stays : Stays region start store) {roots : Node → Prop}
    (rooted : ∀ node, roots node → region node) (reached : store.Reaches roots node) :
    region node := by
  induction reached with
  | root given => exact rooted _ given
  | step _ stored mentioned ih => exact stays.closed ih stored mentioned

theorem Stays.value (stays : Stays region start store) {scope : ScopeId} {name : String}
    {value : Value} (inside : region (.scope scope))
    (found : store.value? scope name = some value) : Fits region value := by
  intro node leads
  obtain ⟨content,here,stored⟩ := Option.bind_eq_some_iff.mp found
  have held : store.cell (.scope scope) = some (.scope content.values
      (fun name => content.constants.contains name) content.parent) := by
    rw [cell,here,Option.map_some]
  exact stays.closed inside held (.value (Table.mem_of_get? stored) leads)

theorem Stays.parent (stays : Stays region start store) {scope parent : ScopeId}
    (inside : region (.scope scope)) (below : store.parent? scope = some parent) :
    region (.scope parent) := by
  obtain ⟨content,here,around⟩ := Option.bind_eq_some_iff.mp below
  have held : store.cell (.scope scope) = some (.scope content.values
      (fun name => content.constants.contains name) (some parent)) := by
    rw [cell,here,Option.map_some,around]
  exact stays.closed inside held .parent

theorem Stays.property (stays : Stays region start store) {object : ObjectId}
    {properties : Table Value} {entry : String × Value} (inside : region (.object object))
    (here : store.objects[object]? = some properties) (stored : entry ∈ properties.entries) :
    Fits region entry.2 := by
  intro node leads
  have held : store.cell (.object object) = some (.object properties) := by
    rw [cell,here,Option.map_some]
  exact stays.closed inside held (.property stored leads)

theorem Agrees.cell_isNone {node : Node} (agrees : Agrees region first second) :
    second.cell node = none ↔ first.cell node = none := by
  cases node with
  | scope id => simp [cell,agrees.scopes]
  | object id => simp [cell,agrees.objects]

theorem Agrees.refl (region : Node → Prop) (store : Store) : Agrees region store store :=
  ⟨rfl,rfl,rfl,fun _ => rfl⟩

theorem Agrees.reaches {roots : Node → Prop} (agrees : Agrees (first.Reaches roots) first second)
    (node : Node) : second.Reaches roots node ↔ first.Reaches roots node := by
  constructor
  · intro reached
    induction reached with
    | root given => exact .root given
    | step _ stored mentioned ih => exact .step ih (agrees.same ih ▸ stored) mentioned
  · intro reached
    induction reached with
    | root given => exact .root given
    | step reached stored mentioned ih =>
      exact .step ih ((agrees.same reached).trans stored) mentioned

/-- What is reached from roots, and all that is yet to be made. -/
def Realm (store : Store) (roots : Node → Prop) (node : Node) : Prop :=
  store.Reaches roots node ∨ store.cell node = none

theorem Agrees.stays {roots : Node → Prop} (agrees : Agrees (first.Reaches roots) first second) :
    Stays (first.Realm roots) second second where
  closed {node cell target} inside stored mentioned := by
    rcases inside with reached | free
    · exact .inl (.step reached ((agrees.same reached).symm.trans stored) mentioned)
    · rw [agrees.cell_isNone.mpr free] at stored
      cases stored
  spare free := .inr (agrees.cell_isNone.mp free)
  outside _ := rfl

theorem Agrees.realm {roots : Node → Prop} (agrees : Agrees (first.Reaches roots) first second) :
    Agrees (first.Realm roots) first second where
  scopes := agrees.scopes
  objects := agrees.objects
  identities := agrees.identities
  same {node} inside := by
    rcases inside with reached | free
    · exact agrees.same reached
    · rw [free,agrees.cell_isNone.mpr free]

/-! Reading inside a region. -/

section
variable (stays : Stays region start first) (agrees : Agrees region first second)
include stays

theorem Stays.chainWithin {depth : Nat} {scope : ScopeId} (inside : region (.scope scope)) :
    ∀ place ∈ first.chainWithin depth scope, region (.scope place) := by
  induction depth generalizing scope with
  | zero => simp [Store.chainWithin]
  | succ depth ih =>
    intro place member
    rw [Store.chainWithin] at member
    rcases List.mem_cons.mp member with rfl | around
    · exact inside
    · cases below : first.parent? scope with
      | none => simp [below] at around
      | some parent =>
        rw [below] at around
        exact ih (stays.parent inside below) place around

theorem Stays.resolve? {scope owner : ScopeId} {name : String} (inside : region (.scope scope))
    (found : first.resolve? scope name = some owner) : region (.scope owner) :=
  stays.chainWithin inside owner (List.mem_of_find?_eq_some found)

theorem Stays.lookup {scope : ScopeId} {name : String} {value : Value}
    (inside : region (.scope scope)) (found : first.lookup scope name = .ok value) :
    Fits region value := by
  unfold Store.lookup at found
  cases resolved : (first.resolve? scope name).bind (first.value? · name) with
  | none => simp [resolved] at found
  | some other =>
    obtain ⟨owner,nearest,stored⟩ := Option.bind_eq_some_iff.mp resolved
    simp only [resolved] at found
    exact Except.ok.inj found ▸ stays.value (stays.resolve? inside nearest) stored

theorem Stays.property? {object : ObjectId} {key : String} {value : Value}
    (inside : region (.object object)) (found : first.property? object key = some value) :
    Fits region value := by
  obtain ⟨properties,here,stored⟩ := Option.bind_eq_some_iff.mp found
  exact stays.property inside here (Table.mem_of_get? stored)

include agrees

theorem Agrees.chainWithin {depth : Nat} {scope : ScopeId} (inside : region (.scope scope)) :
    second.chainWithin depth scope = first.chainWithin depth scope := by
  induction depth generalizing scope with
  | zero => rfl
  | succ depth ih =>
    rw [Store.chainWithin,Store.chainWithin,parent?_of_cell (agrees.same inside)]
    cases below : first.parent? scope with
    | none => rfl
    | some parent =>
      dsimp only
      rw [ih (stays.parent inside below)]

theorem Agrees.resolve? {scope : ScopeId} (name : String) (inside : region (.scope scope)) :
    second.resolve? scope name = first.resolve? scope name := by
  unfold Store.resolve? chain
  rw [agrees.scopes,agrees.chainWithin stays inside]
  apply List.find?_congr
  intro place member
  exact declares_of_cell (agrees.same (stays.chainWithin inside place member)) name

theorem Agrees.lookup {scope : ScopeId} (name : String) (inside : region (.scope scope)) :
    second.lookup scope name = first.lookup scope name := by
  unfold Store.lookup
  rw [agrees.resolve? stays name inside]
  cases found : first.resolve? scope name with
  | none => rfl
  | some owner =>
    rw [Option.bind_some,Option.bind_some,
      value?_of_cell (agrees.same (stays.resolve? inside found))]

theorem Agrees.render {depth : Nat} {path : List ObjectId} {value : Value}
    (held : Fits region value) :
    second.render depth path value = first.render depth path value := by
  -- The entries of an object are rendered with less depth left, cycles or not.
  induction depth generalizing path value with
  | zero => cases value <;> rfl
  | succ depth ih =>
    cases value with
    | object id =>
      have inside : region (.object id) := held _ rfl
      have alike : second.properties id = first.properties id := by
        unfold properties
        rw [objects_of_cell (agrees.same inside)]
      have entries : ∀ entry ∈ first.properties id,
          (entry.1,second.render depth (id :: path) entry.2) =
            (entry.1,first.render depth (id :: path) entry.2) := by
        intro entry stored
        rw [ih (stays.property? inside (mem_properties.mp stored))]
      rw [render_object,render_object,alike,List.map_congr_left entries]
    | number | boolean | null | native | closure => rfl

end
end Store
end Scriptlet
