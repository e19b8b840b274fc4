import Scriptlet.Proofs.Store.Touch

/-! The scopes around a scope. In a well-formed store every chain of parents ends, and looking
a name up ends with it. -/
namespace Scriptlet.Store

variable {store : Store}

inductive Chain (store : Store) : ScopeId → List ScopeId → Prop where
  | outermost {scope} (alone : store.parent? scope = none) : Chain store scope [scope]
  | inner {scope parent others} (below : store.parent? scope = some parent)
      (around : Chain store parent others) : Chain store scope (scope :: others)

/-- Looking a name up: the scope itself, or else what the scope around it gives. -/
inductive Resolves (store : Store) (name : String) : ScopeId → Option ScopeId → Prop where
  | here {scope} (declared : store.declares name scope = true) :
      Resolves store name scope (some scope)
  | outward {scope parent answer} (absent : store.declares name scope = false)
      (below : store.parent? scope = some parent) (onward : Resolves store name parent answer) :
      Resolves store name scope answer
  | nowhere {scope} (absent : store.declares name scope = false)
      (alone : store.parent? scope = none) : Resolves store name scope none

theorem chain_congr {store' : Store} {scope : ScopeId}
    (size : store'.scopes.size = store.scopes.size)
    (parents : ∀ place, store'.parent? place = store.parent? place) :
    store'.chain scope = store.chain scope := by
  have within (depth : Nat) (scope : ScopeId) :
      store'.chainWithin depth scope = store.chainWithin depth scope := by
    induction depth generalizing scope with
    | zero => rfl
    | succ depth ih => simp only [chainWithin,parents,ih]
  rw [chain,chain,size,within]

/-- Names are looked up in the scopes, and nowhere else. -/
theorem lookup_of_scopes {store' : Store} {scope : ScopeId} {name : String}
    (same : store'.scopes = store.scopes) : store'.lookup scope name = store.lookup scope name := by
  have parents (place : ScopeId) : store'.parent? place = store.parent? place := by
    simp only [parent?,same]
  have values (place : ScopeId) : store'.value? place name = store.value? place name := by
    simp only [value?,same]
  have declared : store'.declares name = store.declares name := by
    funext place
    simp only [declares,values]
  simp only [lookup,resolve?,chain_congr (congrArg Array.size same) parents,declared,values]

private theorem chainWithin_chain (formed : store.WellFormed) {depth : Nat} {scope : ScopeId}
    (deep : scope < depth) : store.Chain scope (store.chainWithin depth scope) := by
  induction depth generalizing scope with
  | zero => exact (Nat.not_lt_zero scope deep).elim
  | succ depth ih =>
    rw [chainWithin]
    cases below : store.parent? scope with
    | none => exact .outermost below
    | some parent =>
      have older : parent < scope := formed.older below
      exact .inner below (ih (Nat.lt_of_lt_of_le older (Nat.le_of_lt_succ deep)))

theorem chain_chain (formed : store.WellFormed) {scope : ScopeId}
    (inside : scope < store.scopes.size) : store.Chain scope (store.chain scope) :=
  chainWithin_chain formed inside

private theorem Chain.resolves {scope : ScopeId} {scopes : List ScopeId}
    (chain : store.Chain scope scopes)
    (name : String) : store.Resolves name scope (scopes.find? (store.declares name)) := by
  induction chain with
  | @outermost scope alone =>
    cases declared : store.declares name scope with
    | true => simpa [declared] using Resolves.here declared
    | false => simpa [declared] using Resolves.nowhere declared alone
  | @inner scope parent others below _ ih =>
    cases declared : store.declares name scope with
    | true => simpa [declared] using Resolves.here declared
    | false => simpa [declared] using Resolves.outward declared below ih

theorem resolve?_resolves (formed : store.WellFormed) {scope : ScopeId}
    (inside : scope < store.scopes.size) (name : String) :
    store.Resolves name scope (store.resolve? scope name) :=
  (chain_chain formed inside).resolves name

end Scriptlet.Store
