import Scriptlet.Proofs.Store.Evaluation
import Scriptlet.Toolkit

/-! The routines of the toolkit are confined: they read scopes, declare and assign names, make
objects and call what they are given, and nothing else. -/
namespace Scriptlet.Toolkit
open Store

variable {world : World} {fits : Store → Value → Prop}

section
variable {property : Value → Prop} {arguments : List Value}
  (held : ∀ value ∈ arguments, property value) (null : property .null)
include held null

theorem argument_satisfies (index : Nat) : property (argument arguments index) := by
  unfold argument
  rw [List.getD_eq_getElem?_getD]
  cases found : arguments[index]? with
  | none => exact null
  | some value => exact held value (List.mem_of_getElem? found)

theorem last_satisfies : property (arguments.getLast?.getD .null) := by
  cases found : arguments.getLast? with
  | none => exact null
  | some value => exact held value (List.mem_of_getLast? found)

end

def scopeTable (store : Store) (scope : ScopeId) : Table Value :=
  (store.names scope).foldl (fun table name =>
    match store.value? scope name with
    | some value => table.insert name value
    | none => table) Table.empty

theorem scopeObject_apply (scope : ScopeId) :
    scopeObject scope world = Act.addObject (scopeTable world.store scope) world := rfl

theorem scopeTable_entries (store : Store) (scope : ScopeId) :
    ∀ entry ∈ (scopeTable store scope).entries,
      ∃ name, store.value? scope name = some entry.2 := by
  unfold scopeTable
  have any (names : List String) (table : Table Value)
      (kept : ∀ entry ∈ table.entries, ∃ name, store.value? scope name = some entry.2) :
      ∀ entry ∈ (names.foldl (fun table name =>
        match store.value? scope name with
        | some value => table.insert name value
        | none => table) table).entries, ∃ name, store.value? scope name = some entry.2 := by
    induction names generalizing table with
    | nil => exact kept
    | cons name names ih =>
      rw [List.foldl_cons]
      apply ih
      cases stored : store.value? scope name with
      | none => exact kept
      | some value =>
        intro entry member
        rcases table.entries_insert name value entry member with rfl | before
        · exact ⟨name,stored⟩
        · exact kept entry before
  exact any _ _ (by simp [Table.empty])

variable [Fitting fits]

private theorem scopeObject_keeps (formed : world.store.Sound fits) (scope : ScopeId) :
    Keeps fits world fits (scopeObject scope world) := by
  rw [scopeObject_apply]
  apply addObject_keeps
  intro key value found
  obtain ⟨name,stored⟩ := scopeTable_entries world.store scope _ (Table.mem_of_get? found)
  exact formed.held stored

/-- The routines are confined, whatever is asked of the values that are stored. -/
theorem host_confines (fits : Store → Value → Prop) [Fitting fits] : host.Confines fits := by
  intro label invoke arguments scope world obeys formed held inside
  change Keeps fits world fits (routine label invoke arguments scope world)
  have null : fits world.store .null := Fitting.bare trivial
  have first := argument_satisfies held null 0
  unfold routine
  split
  · exact keeps_pure first
  · exact keeps_pure (last_satisfies held null)
  · exact keeps_pure (Fitting.bare trivial)
  · exact keeps_pure (Fitting.bare trivial)
  · cases argument arguments 0 with
    | boolean chosen =>
      cases chosen with
      | true => exact keeps_pure (argument_satisfies held null 1)
      | false => exact keeps_pure (argument_satisfies held null 2)
    | _ => exact keeps_pure (argument_satisfies held null 2)
  · exact keeps_throw
  · exact lookup_keeps formed
  · exact assign_keeps formed first
  · exact declare_keeps formed first
  · exact scopeObject_keeps formed scope
  · exact obeys formed first (fun value member => held value (List.mem_of_mem_drop member)) inside
  · exact keeps_throw

theorem host_confined : host.Confined := host_confines Holds

end Scriptlet.Toolkit
