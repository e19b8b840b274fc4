import Scriptlet.Proofs.Eval.Accord

/-! The log makes no difference to an evaluation, if custom routines do not read it. -/
namespace Scriptlet

structure SameButLog (first second : World) : Prop where
  store : second.store = first.store
  printed : second.printed = first.printed
  clock : second.clock = first.clock

def Accord.unlogged : Accord where
  related := SameButLog
  value _ := True
  scope _ := True
  owned _ := True

/-- Custom routines do not read the log. -/
def Host.IgnoresLog (host : Host) : Prop := host.Honours .unlogged

theorem Host.standard_ignoresLog : Host.standard.IgnoresLog := by
  intro label invoke arguments scope _ _ _
  exact Accord.governs_throw

theorem Accord.unlogged_lawful : Accord.unlogged.Lawful where
  number _ := trivial
  null := trivial
  closure _ := trivial
  owned _ := trivial
  log {_ _} := by
    intro first second same
    exact .ok trivial {same with}
  lookup {scope name} _ := by
    intro first second same
    rw [Act.lookup_apply,Act.lookup_apply,same.store]
    cases first.store.lookup scope name with
    | ok value => exact .ok trivial same
    | error fault => exact .error same
  declare {scope name value constant} _ _ := by
    intro first second same
    rw [Act.declare_apply,Act.declare_apply,same.store]
    cases first.store.declare scope name value constant with
    | ok store => exact .ok trivial ⟨rfl,same.printed,same.clock⟩
    | error fault => exact .error same
  assign {scope name value} _ _ := by
    intro first second same
    rw [Act.assign_apply,Act.assign_apply,same.store]
    cases first.store.assign scope name value with
    | ok store => exact .ok trivial ⟨rfl,same.printed,same.clock⟩
    | error fault => exact .error same
  addScope {ε parent} _ := by
    intro first second same
    rw [Act.addScope_apply,Act.addScope_apply,same.store]
    exact .ok trivial ⟨rfl,same.printed,same.clock⟩
  addObject {ε table} _ := by
    intro first second same
    rw [Act.addObject_apply,Act.addObject_apply,same.store]
    exact .ok trivial ⟨rfl,same.printed,same.clock⟩
  readProperty {object key span} _ := by
    intro first second same
    rw [Eval.readProperty_apply,Eval.readProperty_apply,same.store]
    cases first.store.property? object key with
    | some value => exact .ok trivial same
    | none => exact .error same
  writeProperty _ _ := by
    intro first second same
    exact .ok trivial ⟨by dsimp only; rw [same.store],same.printed,same.clock⟩
  print {arguments} _ := by
    intro first second same
    rw [Host.print_apply,Host.print_apply,same.store,same.printed]
    exact .ok trivial ⟨rfl,rfl,same.clock⟩
  readClock {_} := by
    intro first second same
    rw [Act.readClock_apply,Act.readClock_apply,same.clock]
    exact .ok trivial ⟨same.store,same.printed,rfl⟩

end Scriptlet
