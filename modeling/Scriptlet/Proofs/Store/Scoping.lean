import Scriptlet.Proofs.Eval.Steps
import Scriptlet.Proofs.Store.History

/-! What a scope sees of a write. An assignment changes the name for all that resolve it to the
same scope, and a declaration for all that find nothing nearer; every other name is seen as before,
from every scope. -/
namespace Scriptlet
namespace Store

variable {store : Store} {scope owner place : ScopeId} {name key : String} {value : Value}
  {constant : Bool}

def Encloses (store : Store) (outer scope : ScopeId) : Prop :=
  ∃ scopes, store.Chain scope scopes ∧ outer ∈ scopes

/-- The owner lies on the scope's chain, and no scope below it there declares the name. -/
def Unshadowed (store : Store) (name : String) (scope owner : ScopeId) : Prop :=
  ∃ below above, store.Chain scope (below ++ owner :: above) ∧
    ∀ inner ∈ below, store.declares name inner = false

/-- The owner is the first on the scope's chain that declares the name. -/
def Nearest (store : Store) (name : String) (scope owner : ScopeId) : Prop :=
  store.Unshadowed name scope owner ∧ store.declares name owner = true

/-! The chain of a scope and its list. -/

theorem Chain.unique {scopes others : List ScopeId} (chain : store.Chain scope scopes)
    (again : store.Chain scope others) : scopes = others := by
  induction chain generalizing others with
  | outermost alone =>
    cases again with
    | outermost => rfl
    | inner below => simp [alone] at below
  | inner below _ ih =>
    cases again with
    | outermost alone => simp [alone] at below
    | inner below' around =>
      obtain rfl := Option.some.inj (below.symm.trans below')
      rw [ih around]

section
variable (formed : store.WellFormed) (inside : scope < store.scopes.size)
include formed inside

private theorem chain_iff {scopes : List ScopeId} :
    store.Chain scope scopes ↔ store.chain scope = scopes := by
  constructor
  · exact fun chain => (chain_chain formed inside).unique chain
  · rintro rfl
    exact chain_chain formed inside

private theorem encloses_iff {outer : ScopeId} :
    store.Encloses outer scope ↔ outer ∈ store.chain scope := by
  simp only [Encloses,chain_iff formed inside,exists_eq_left']

private theorem unshadowed_iff : store.Unshadowed name scope owner ↔ ∃ below above,
    store.chain scope = below ++ owner :: above ∧
      ∀ inner ∈ below, store.declares name inner = false := by
  simp only [Unshadowed,chain_iff formed inside]

private theorem resolve?_eq_some : store.resolve? scope name = some owner ↔
    store.Nearest name scope owner := by
  rw [resolve?,List.find?_eq_some_iff_append,Nearest,unshadowed_iff formed inside,and_comm]
  simp only [Bool.not_eq_true']

private theorem resolve?_eq_none : store.resolve? scope name = none ↔
    ∀ outer, store.Encloses outer scope → store.declares name outer = false := by
  simp only [resolve?,List.find?_eq_none,encloses_iff formed inside,Bool.not_eq_true]

end

/-! Looking names up behind a write. -/

private theorem chain_bind :
    (store.bind owner key value constant).chain scope = store.chain scope :=
  chain_congr size_bind fun _ => parent?_bind

private theorem declares_bind : (store.bind owner key value constant).declares name place =
    (decide (place = owner ∧ name = key ∧ owner < store.scopes.size) ||
      store.declares name place) := by
  simp only [declares,value?_bind]
  split
  · next written => simp [written]
  · next apart => simp [apart]

private theorem lookup_eq_of_resolve (seen : store.resolve? scope name = some owner)
    (stored : store.value? owner name = some value) : store.lookup scope name = .ok value := by
  simp only [lookup,seen,Option.bind_some,stored]

/-- A name that is resolved as before has its old value, unless it is the one that was written. -/
theorem lookup_bind_apart
    (resolved : (store.bind owner key value constant).resolve? scope name =
      store.resolve? scope name)
    (apart : ¬ (name = key ∧ store.resolve? scope key = some owner)) :
    (store.bind owner key value constant).lookup scope name = store.lookup scope name := by
  rw [lookup,lookup,resolved]
  cases seen : store.resolve? scope name with
  | none => rfl
  | some found =>
    have other : ¬ (found = owner ∧ name = key ∧ owner < store.scopes.size) := by
      rintro ⟨rfl,rfl,_⟩
      exact apart ⟨rfl,seen⟩
    rw [Option.bind_some,Option.bind_some,value?_bind,if_neg other]

/-! Assignments: the name is declared where it is written. -/

section
variable (declared : store.declares key owner = true)
include declared

private theorem resolve?_rebind : (store.bind owner key value constant).resolve? scope name =
    store.resolve? scope name := by
  rw [resolve?,resolve?,chain_bind]
  congr 1
  funext place
  rw [declares_bind]
  by_cases written : place = owner ∧ name = key
  · obtain ⟨rfl,rfl⟩ := written
    simp [declared]
  · simp only [← and_assoc,written,false_and,decide_false,Bool.false_or]

private theorem lookup_rebind_seen (inside : owner < store.scopes.size)
    (seen : store.resolve? scope key = some owner) :
    (store.bind owner key value constant).lookup scope key = .ok value := by
  refine lookup_eq_of_resolve ((resolve?_rebind declared).trans seen) ?_
  rw [value?_bind,if_pos ⟨rfl,rfl,inside⟩]

private theorem lookup_rebind_apart
    (apart : ¬ (name = key ∧ store.resolve? scope key = some owner)) :
    (store.bind owner key value constant).lookup scope name = store.lookup scope name :=
  lookup_bind_apart (resolve?_rebind declared) apart

end

/-! Declarations: the name is new where it is written. -/

/-- The name is found in its new place, unless a nearer scope has it. -/
theorem find?_declared {below above : List ScopeId}
    (free : ∀ inner ∈ below, store.declares name inner = false) :
    (below ++ owner :: above).find?
      (fun place => decide (place = owner) || store.declares name place) = some owner := by
  induction below with
  | nil => simp
  | cons inner below ih =>
    obtain ⟨here,free⟩ := List.forall_mem_cons.mp free
    by_cases same : inner = owner
    · simp [same]
    · simpa [same,here] using ih free

/-- On a chain that does not come to the new place before it finds the name, nothing changes. -/
theorem find?_shadowed {scopes : List ScopeId}
    (shadowed : ¬ ∃ below above, scopes = below ++ owner :: above ∧
      ∀ inner ∈ below, store.declares name inner = false) :
    scopes.find? (fun place => decide (place = owner) || store.declares name place) =
      scopes.find? (store.declares name) := by
  induction scopes with
  | nil => rfl
  | cons first others ih =>
    cases here : store.declares name first with
    | true => simp [here]
    | false =>
      have other : first ≠ owner := by
        rintro rfl
        exact shadowed ⟨[],others,rfl,by simp⟩
      have onward := ih (by
        rintro ⟨below,above,rfl,free⟩
        exact shadowed ⟨first :: below,above,rfl,by simpa [here] using free⟩)
      simpa [here,other] using onward

section
variable (formed : store.WellFormed) (inside : scope < store.scopes.size)
  (made : owner < store.scopes.size)
include formed inside made

private theorem lookup_declared (seen : store.Unshadowed name scope owner) :
    (store.bind owner name value constant).lookup scope name = .ok value := by
  obtain ⟨below,above,chain,free⟩ := (unshadowed_iff formed inside).mp seen
  have resolved : (store.bind owner name value constant).resolve? scope name = some owner := by
    rw [resolve?,chain_bind,chain,← find?_declared free]
    congr 1
    funext place
    simp [declares_bind,made]
  refine lookup_eq_of_resolve resolved ?_
  rw [value?_bind,if_pos ⟨rfl,rfl,made⟩]

private theorem lookup_shadowed (absent : store.declares key owner = false)
    (shadowed : ¬ (name = key ∧ store.Unshadowed key scope owner)) :
    (store.bind owner key value constant).lookup scope name = store.lookup scope name := by
  rw [unshadowed_iff formed inside] at shadowed
  have resolved : (store.bind owner key value constant).resolve? scope name =
      store.resolve? scope name := by
    rw [resolve?,resolve?,chain_bind]
    by_cases same : name = key
    · subst same
      rw [← find?_shadowed fun sees => shadowed ⟨rfl,sees⟩]
      congr 1
      funext place
      simp [declares_bind,made]
    · congr 1
      funext place
      simp [declares_bind,same]
  apply lookup_bind_apart resolved
  rintro ⟨rfl,seen⟩
  exact Bool.false_ne_true (absent.symm.trans (List.find?_some seen))

end

private theorem declares_inside (declared : store.declares name scope = true) :
    scope < store.scopes.size := by
  refine Nat.lt_of_not_le fun outside => ?_
  simp [declares,value?,Array.getElem?_eq_none outside] at declared

end Store

/-! The operations themselves, one case for each way they can end. -/

namespace Act
open Store

variable {world : World} {scope observer owner : ScopeId} {name other : String} {value : Value}
  {constant : Bool}

private theorem assign_cases (world : World) (scope : ScopeId) (name : String) (value : Value) :
    (world.store.resolve? scope name = none ∧
      assign scope name value world = .error (.unresolvedVariable name) world) ∨
    (∃ owner, world.store.resolve? scope name = some owner ∧
      ((world.store.isConstant name owner = true ∧
          assign scope name value world = .error (.constAssignment name) world) ∨
        (world.store.isConstant name owner = false ∧ assign scope name value world =
          .ok value {world with store := world.store.bind owner name value false}))) := by
  rw [assign_apply,Store.assign]
  cases world.store.resolve? scope name with
  | none => exact .inl ⟨rfl,rfl⟩
  | some owner =>
    refine .inr ⟨owner,rfl,?_⟩
    cases marked : world.store.isConstant name owner with
    | true => exact .inl ⟨rfl,by simp [marked]⟩
    | false => exact .inr ⟨rfl,by simp [marked]⟩

private theorem declare_cases (world : World) (scope : ScopeId) (name : String) (value : Value)
    (constant : Bool) :
    (world.store.declares name scope = true ∧ declare scope name value constant world =
      .error (.duplicateDeclaration name) world) ∨
    (world.store.declares name scope = false ∧ ∃ after,
      declare scope name value constant world = .ok value after ∧
        after.store = world.store.bind scope name value constant) := by
  rw [declare_apply,Store.declare]
  cases taken : world.store.declares name scope with
  | true => exact .inl ⟨rfl,by simp⟩
  | false => exact .inr ⟨rfl,_,by simp; rfl,rfl⟩

/-- What fails changes nothing. -/
theorem assign_error {fault : Fault} {after : World}
    (failed : assign scope name value world = .error fault after) : after = world := by
  rcases assign_cases world scope name value with ⟨_,known⟩ | ⟨_,_,⟨_,known⟩ | ⟨_,known⟩⟩
  all_goals
    rw [known] at failed
    cases failed
  all_goals rfl

private theorem declare_error {fault : Fault} {after : World}
    (failed : declare scope name value constant world = .error fault after) : after = world := by
  rcases declare_cases world scope name value constant with ⟨_,known⟩ | ⟨_,_,known,_⟩
  all_goals
    rw [known] at failed
    cases failed
  rfl

private theorem declare_duplicate_iff :
    (∃ after, declare scope name value constant world = .error (.duplicateDeclaration name) after) ↔
      world.store.declares name scope = true := by
  rcases declare_cases world scope name value constant with ⟨taken,known⟩ | ⟨free,_,known,_⟩
  · simp [taken,known]
  · simp [free,known]

section
variable (formed : world.store.WellFormed) (inside : scope < world.store.scopes.size)
include formed inside

private theorem assign_unresolved_iff :
    (∃ after, assign scope name value world = .error (.unresolvedVariable name) after) ↔
      ∀ outer, world.store.Encloses outer scope → world.store.declares name outer = false := by
  rw [← resolve?_eq_none formed inside]
  rcases assign_cases world scope name value with ⟨none,known⟩ |
    ⟨owner,found,⟨_,known⟩ | ⟨_,known⟩⟩
  · simp [none,known]
  · simp [found,known]
  · simp [found,known]

private theorem assign_constant_iff :
    (∃ after, assign scope name value world = .error (.constAssignment name) after) ↔
      ∃ owner, world.store.Nearest name scope owner ∧ world.store.isConstant name owner = true := by
  simp only [← resolve?_eq_some formed inside]
  rcases assign_cases world scope name value with ⟨none,known⟩ |
    ⟨owner,found,⟨marked,known⟩ | ⟨free,known⟩⟩
  · simp [none,known]
  · simp [found,known,marked]
  · simp [found,known,free]

variable (watching : observer < world.store.scopes.size)
include watching

private theorem assign_seen (nearest : world.store.Nearest name scope owner)
    (free : world.store.isConstant name owner = false) :
    ∃ after, assign scope name value world = .ok value after ∧
      (other = name ∧ world.store.Nearest name observer owner →
        after.store.lookup observer other = .ok value) ∧
      (¬ (other = name ∧ world.store.Nearest name observer owner) →
        after.store.lookup observer other = world.store.lookup observer other) := by
  have declared := nearest.2
  rw [← resolve?_eq_some formed inside] at nearest
  rw [← resolve?_eq_some formed watching]
  rcases assign_cases world scope name value with ⟨none,_⟩ |
    ⟨found,resolved,⟨marked,_⟩ | ⟨_,known⟩⟩
  · simp [none] at nearest
  · obtain rfl := Option.some.inj (resolved.symm.trans nearest)
    simp [free] at marked
  · obtain rfl := Option.some.inj (resolved.symm.trans nearest)
    refine ⟨_,known,?_,lookup_rebind_apart declared⟩
    rintro ⟨rfl,seen⟩
    exact lookup_rebind_seen declared (declares_inside declared) seen

private theorem declare_seen (free : world.store.declares name scope = false) :
    ∃ after, declare scope name value constant world = .ok value after ∧
      (other = name ∧ world.store.Unshadowed name observer scope →
        after.store.lookup observer other = .ok value) ∧
      (¬ (other = name ∧ world.store.Unshadowed name observer scope) →
        after.store.lookup observer other = world.store.lookup observer other) := by
  rcases declare_cases world scope name value constant with ⟨taken,_⟩ | ⟨_,after,known,store⟩
  · simp [free] at taken
  · refine ⟨after,known,?_,?_⟩
    · rintro ⟨rfl,seen⟩
      rw [store]
      exact lookup_declared formed watching inside seen
    · intro shadowed
      rw [store]
      exact lookup_shadowed formed watching inside free shadowed

end
end Act

open Store

/-- In every state there can be, an assignment fails if nothing on the chain declares the name, or
if the nearest scope that does has it as a constant; else it is seen from where the name resolves
to that very scope, and from nowhere else. A declaration fails if the scope itself has the name;
else it is seen from the scopes below that find the name no nearer, and from nowhere else. What
fails changes nothing. -/
theorem scopes_see_writes {host : Host} (confined : host.Confined) {start stage : Stage}
    (fresh : start.Fresh) (past : Stage.Run host start stage) {scope observer : ScopeId}
    (inside : scope < stage.store.scopes.size) (watching : observer < stage.store.scopes.size)
    (name other : String) (value : Value) (constant : Bool) :
    ((∃ after, Act.assign scope name value stage.world = .error (.unresolvedVariable name) after) ↔
      ∀ outer, stage.store.Encloses outer scope → stage.store.declares name outer = false) ∧
    ((∃ after, Act.assign scope name value stage.world = .error (.constAssignment name) after) ↔
      ∃ owner, stage.store.Nearest name scope owner ∧
        stage.store.isConstant name owner = true) ∧
    (∀ owner, stage.store.Nearest name scope owner → stage.store.isConstant name owner = false →
      ∃ after, Act.assign scope name value stage.world = .ok value after ∧
        (other = name ∧ stage.store.Nearest name observer owner →
          after.store.lookup observer other = .ok value) ∧
        (¬ (other = name ∧ stage.store.Nearest name observer owner) →
          after.store.lookup observer other = stage.store.lookup observer other)) ∧
    ((∃ after, Act.declare scope name value constant stage.world =
        .error (.duplicateDeclaration name) after) ↔ stage.store.declares name scope = true) ∧
    (stage.store.declares name scope = false →
      ∃ after, Act.declare scope name value constant stage.world = .ok value after ∧
        (other = name ∧ stage.store.Unshadowed name observer scope →
          after.store.lookup observer other = .ok value) ∧
        (¬ (other = name ∧ stage.store.Unshadowed name observer scope) →
          after.store.lookup observer other = stage.store.lookup observer other)) ∧
    (∀ fault after, Act.assign scope name value stage.world = .error fault after ∨
      Act.declare scope name value constant stage.world = .error fault after →
      after = stage.world) := by
  obtain ⟨⟨formed,_,_⟩,_⟩ := Stage.Runs.keep confined past fresh.sound
  refine ⟨Act.assign_unresolved_iff formed inside,Act.assign_constant_iff formed inside,?_,
    Act.declare_duplicate_iff,Act.declare_seen formed inside watching,?_⟩
  · intro owner nearest free
    exact Act.assign_seen formed inside watching nearest free
  · rintro fault after (failed | failed)
    · exact Act.assign_error failed
    · exact Act.declare_error failed

/-- A scope below a session's own cannot assign `true`, but it can declare the name for itself. -/
theorem scopes_see_writes_shadowed_constant :
    let start : Stage := ⟨⟨Store.empty,"",[],fun _ => .ok 0⟩,[]⟩
    let opened := start.openDesk "<repl>"
    let stage := opened.perform (Act.addScope (some 0) : Act Fault ScopeId)
    Toolkit.host.Confined ∧ start.Fresh ∧ Stage.Run Toolkit.host start stage ∧
      0 < stage.store.scopes.size ∧ 1 < stage.store.scopes.size ∧
      (∃ after, Act.assign 1 "true" .null stage.world = .error (.constAssignment "true") after) ∧
      ∃ after, Act.declare 1 "true" .null false stage.world = .ok .null after ∧
        after.store.lookup 1 "true" = .ok .null ∧
        after.store.lookup 0 "true" = .ok (.boolean true) := by
  intro start opened stage
  have fresh : start.Fresh := ⟨rfl,rfl⟩
  have past : Stage.Run Toolkit.host start stage :=
    (Relation.ReflTransGen.single (.openSession "<repl>")).tail (.withParent 0 (by decide +kernel))
  have outer : 0 < stage.store.scopes.size := by decide +kernel
  have inner : 1 < stage.store.scopes.size := by decide +kernel
  obtain ⟨⟨formed,_,furnished⟩,_⟩ := Stage.Runs.keep Toolkit.host_confined past fresh.sound
  have nearest : stage.store.Nearest "true" 1 0 :=
    (resolve?_eq_some formed inner).mp (by decide +kernel)
  have below : stage.store.Unshadowed "true" 1 1 :=
    (unshadowed_iff formed inner).mpr ⟨[],[0],by decide +kernel,by simp⟩
  have apart : ¬ stage.store.Unshadowed "true" 0 1 := by
    rw [unshadowed_iff formed outer]
    rintro ⟨before,after,whole,_⟩
    have chain : stage.store.chain 0 = [0] := by decide +kernel
    have member : 1 ∈ stage.store.chain 0 := by simp [whole]
    simp [chain] at member
  obtain ⟨_,constant,_,_,declared,_⟩ := scopes_see_writes Toolkit.host_confined fresh past inner
    inner "true" "true" .null false
  obtain ⟨_,_,_,_,declared',_⟩ := scopes_see_writes Toolkit.host_confined fresh past inner outer
    "true" "true" .null false
  have desks : opened.desks = [⟨0,"<repl>"⟩] := Stage.openDesk_desks "<repl>"
  have seated : ⟨0,"<repl>"⟩ ∈ stage.desks := by
    change _ ∈ opened.desks
    simp [desks]
  obtain ⟨_,value,initial,stored⟩ := furnished _ seated "true" (by simp [initialNames])
  obtain rfl : value = .boolean true := initial
  have free : stage.store.declares "true" 1 = false := by decide +kernel
  obtain ⟨after,ok,seen,_⟩ := declared free
  obtain ⟨after',ok',_,kept⟩ := declared' free
  obtain ⟨_,rfl⟩ := EStateM.Result.ok.inj (ok.symm.trans ok')
  refine ⟨Toolkit.host_confined,fresh,past,outer,inner,constant.mpr ⟨0,nearest,by decide +kernel⟩,
    after,ok,seen ⟨rfl,below⟩,(kept (apart ·.2)).trans ?_⟩
  exact lookup_eq_of_resolve (by decide +kernel) stored

end Scriptlet
