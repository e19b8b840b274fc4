import Mathlib.Logic.Relation
import Scriptlet.Store

/-! How a store changes. Every change is one of a few touches; each keeps the store sound and
leaves parents, declarations and constants as they are. -/
namespace Scriptlet

theorem Table.lookup_entry {α : Type} (key : String) (entry : String × α)
    (rest : List (String × α)) :
    (entry :: rest).lookup key = if key = entry.1 then some entry.2 else rest.lookup key := by
  rw [List.lookup_cons]
  by_cases same : key = entry.1
  · simp [same]
  · simp [same,beq_false_of_ne same]

theorem Table.get?_insert {α : Type} (table : Table α) (name key : String) (value : α) :
    (table.insert name value).get? key = if key = name then some value else table.get? key := by
  simp only [Table.get?,Table.insert]
  generalize table.entries = entries
  induction entries with
  | nil => simp [Table.insertEntry,lookup_entry]
  | cons entry rest ih =>
    rw [Table.insertEntry]
    split
    · next here =>
      simp only [lookup_entry,here]
      by_cases same : key = entry.1 <;> simp [same]
    · next apart =>
      split
      · simp only [lookup_entry]
      · simp only [lookup_entry,ih]
        by_cases same : key = name <;> simp [same,apart]

theorem Table.entries_insert {α : Type} (table : Table α) (name : String) (value : α) :
    ∀ entry ∈ (table.insert name value).entries, entry = (name,value) ∨ entry ∈ table.entries := by
  intro entry member
  exact Table.mem_insertEntry member

theorem Table.mem_of_get? {α : Type} {table : Table α} {name : String} {value : α}
    (found : table.get? name = some value) : (name,value) ∈ table.entries := by
  unfold Table.get? at found
  generalize table.entries = entries at found ⊢
  induction entries with
  | nil => simp at found
  | cons entry rest ih =>
    rw [Table.lookup_entry] at found
    split at found
    · next same =>
      obtain rfl := Option.some.inj found
      simp [same]
    · exact List.mem_cons_of_mem _ (ih found)

theorem Table.mem_entries {α : Type} (table : Table α) {name : String} {value : α} :
    (name,value) ∈ table.entries ↔ table.get? name = some value := by
  refine ⟨?_,Table.mem_of_get?⟩
  have ascending := table.ascending
  unfold Table.get?
  generalize table.entries = entries at ascending ⊢
  intro member
  induction ascending with
  | nil => exact absurd member List.not_mem_nil
  | @cons first rest before _ ih =>
    rw [Table.lookup_entry]
    rcases List.mem_cons.mp member with rfl | later
    · exact if_pos rfl
    · have other : name ≠ first.1 := fun same =>
        String.lt_irrefl _ (same ▸ before (name,value) later)
      rw [if_neg other,ih later]

private theorem Table.eq_of_get? {α : Type} {first second : Table α}
    (same : ∀ name, first.get? name = second.get? name) : first = second := by
  have irreflexive : ∀ (less more : String × α), less.1 < more.1 → less ≠ more := by
    rintro less _ below rfl
    exact String.lt_irrefl _ below
  have entries : first.entries = second.entries := by
    refine List.Perm.eq_of_pairwise ?_ first.ascending second.ascending
      ((List.perm_ext_iff_of_nodup (first.ascending.imp (irreflexive _ _))
        (second.ascending.imp (irreflexive _ _))).mpr ?_)
    · intro less more _ _ below above
      exact absurd (String.lt_trans below above) (String.lt_irrefl _)
    · rintro ⟨name,value⟩
      rw [first.mem_entries,second.mem_entries,same]
  cases first
  cases second
  simp_all

theorem Table.insert_comm {α : Type} (table : Table α) {name name' : String} (apart : name ≠ name')
    {value value' : α} : (table.insert name value).insert name' value' =
      (table.insert name' value').insert name value := by
  refine Table.eq_of_get? fun key => ?_
  simp only [Table.get?_insert]
  by_cases here : key = name
  · simp [here,apart]
  · simp [here]

def Value.Below (size : Nat) (value : Value) : Prop := ∀ id, value = .object id → id < size

def Value.Bare : Value → Prop
  | .object _ | .closure _ => False
  | _ => True

namespace Store

variable {store store' : Store}

/-! What each operation does to a scope. -/

theorem value?_bind {scope place : ScopeId} {name key : String} {value : Value}
    {constant : Bool} : (store.bind scope name value constant).value? place key =
      if place = scope ∧ key = name ∧ scope < store.scopes.size then some value
      else store.value? place key := by
  simp only [value?,bind,Array.getElem?_modify]
  by_cases here : scope = place
  · subst here
    by_cases inside : scope < store.scopes.size
    · simp [inside,Table.get?_insert]
    · simp [inside]
  · simp [here,Ne.symm here]

theorem isConstant_bind {scope place : ScopeId} {name key : String} {value : Value}
    {constant : Bool} : (store.bind scope name value constant).isConstant key place =
      (decide (place = scope ∧ key = name ∧ scope < store.scopes.size ∧ constant = true) ||
        store.isConstant key place) := by
  simp only [isConstant,bind,Array.getElem?_modify]
  by_cases here : scope = place
  · subst here
    by_cases inside : scope < store.scopes.size
    · cases constant <;> simp [inside]
    · simp [inside]
  · simp [here,Ne.symm here]

theorem parent?_bind {scope place : ScopeId} {name : String} {value : Value}
    {constant : Bool} :
    (store.bind scope name value constant).parent? place = store.parent? place := by
  simp only [parent?,bind,Array.getElem?_modify]
  by_cases here : scope = place
  · subst here
    cases store.scopes[scope]? <;> simp
  · simp [here]

theorem size_bind {scope : ScopeId} {name : String} {value : Value} {constant : Bool} :
    (store.bind scope name value constant).scopes.size = store.scopes.size := by
  simp [bind]

theorem scope_addScope {parent : Option ScopeId} {place : ScopeId} :
    (store.addScope parent).2.scopes[place]? =
      if place = store.scopes.size then some ⟨.empty,[],parent⟩ else store.scopes[place]? := by
  simp only [addScope,Array.getElem?_push]

theorem value?_addScope {parent : Option ScopeId} {place : ScopeId} {key : String} :
    (store.addScope parent).2.value? place key = store.value? place key := by
  simp only [value?,scope_addScope]
  split
  · next new => simp [new,Table.get?,Table.empty]
  · rfl

theorem isConstant_addScope {parent : Option ScopeId} {place : ScopeId} {key : String} :
    (store.addScope parent).2.isConstant key place = store.isConstant key place := by
  simp only [isConstant,scope_addScope]
  by_cases new : place = store.scopes.size
  · simp [new]
  · simp [new]

theorem parent?_addScope {parent : Option ScopeId} {place : ScopeId} :
    (store.addScope parent).2.parent? place =
      if place = store.scopes.size then parent else store.parent? place := by
  simp only [parent?,scope_addScope]
  split <;> rfl

theorem size_addScope {parent : Option ScopeId} :
    (store.addScope parent).2.scopes.size = store.scopes.size + 1 := by
  simp [addScope]

/-- A function belongs to a scope that exists. -/
def Holds (store : Store) : Value → Prop
  | .closure function => function.scope < store.scopes.size
  | _ => True

variable (fits : Store → Value → Prop)

/-- One change of a store. Only what fits is stored, and only an existing scope becomes a
parent. -/
inductive Touch : Store → Store → Prop where
  | scope {store : Store} (parent : Option ScopeId)
      (older : ∀ id ∈ parent, id < store.scopes.size) :
      Touch store (store.addScope parent).2
  | object {store : Store} (properties : Table Value)
      (held : ∀ key value, properties.get? key = some value → fits store value) :
      Touch store (store.addObject properties).2
  | property {store : Store} (object : ObjectId) (key : String) (value : Value)
      (held : fits store value) : Touch store (store.writeProperty object key value)
  | native {store : Store} (name : String) (routine : Routine) :
      Touch store (store.addNative name routine).2
  | closure {store : Store} (name : String) (parameters : List String) (body : List Statement)
      (scope : ScopeId) : Touch store (store.addClosure name parameters body scope).2
  | declare {store store' : Store} {scope name value constant} (held : fits store value)
      (ok : store.declare scope name value constant = .ok store') : Touch store store'
  | assign {store store' : Store} {scope name value} (held : fits store value)
      (ok : store.assign scope name value = .ok store') : Touch store store'

abbrev Touches : Store → Store → Prop := Relation.ReflTransGen (Touch fits)

/-- Constants are declared, parents are older, and every stored value fits. -/
structure Sound (store : Store) : Prop where
  declared : ∀ {scope name}, store.isConstant name scope = true → store.declares name scope = true
  older : ∀ {scope parent}, store.parent? scope = some parent → parent < scope
  held : ∀ {scope name value}, store.value? scope name = some value → fits store value
  property : ∀ {object key value}, store.property? object key = some value → fits store value

abbrev WellFormed (store : Store) : Prop := store.Sound Holds

variable {fits}

/-- Scopes stay with their parents, names with their declarations, constants with their
values. -/
structure Evolves (store store' : Store) : Prop where
  size : store.scopes.size ≤ store'.scopes.size
  objects : store.objects.size ≤ store'.objects.size
  parent : ∀ {scope}, scope < store.scopes.size → store'.parent? scope = store.parent? scope
  declared : ∀ {scope name}, store.declares name scope = true → store'.declares name scope = true
  flag : ∀ {scope name}, store.declares name scope = true →
    store'.isConstant name scope = store.isConstant name scope
  value : ∀ {scope name}, store.declares name scope = true → store.isConstant name scope = true →
    store'.value? scope name = store.value? scope name

theorem Evolves.refl (store : Store) : store.Evolves store :=
  ⟨Nat.le_refl _,Nat.le_refl _,fun _ => rfl,id,fun _ => rfl,fun _ _ => rfl⟩

theorem Evolves.trans {final : Store} (first : store.Evolves store')
    (second : store'.Evolves final) : store.Evolves final where
  size := Nat.le_trans first.size second.size
  objects := Nat.le_trans first.objects second.objects
  parent inside :=
    (second.parent (Nat.lt_of_lt_of_le inside first.size)).trans (first.parent inside)
  declared here := second.declared (first.declared here)
  flag here := (second.flag (first.declared here)).trans (first.flag here)
  value here constant := by
    have kept : store'.isConstant _ _ = true := (first.flag here).trans constant
    exact (second.value (first.declared here) kept).trans (first.value here constant)

/-- What a store may be asked to hold: numbers and the like, objects once they are made, functions
only of scopes that exist, and what it held before it changed. -/
class Fitting (fits : Store → Value → Prop) : Prop where
  bare {store : Store} {value : Value} : value.Bare → fits store value
  made {store : Store} {properties : Table Value} :
    fits (store.addObject properties).2 (.object store.objects.size)
  inside {store : Store} {function : Closure} :
    fits store (.closure function) → function.scope < store.scopes.size
  mono {store store' : Store} {value : Value} :
    fits store value → store.Evolves store' → fits store' value

theorem Holds.mono {value : Value} (held : store.Holds value) (evolved : store.Evolves store') :
    store'.Holds value := by
  cases value with
  | closure function => exact Nat.lt_of_lt_of_le held evolved.size
  | _ => trivial

instance : Fitting Holds where
  bare {_ value} bare := by
    cases value with
    | closure function => exact bare.elim
    | _ => trivial
  made := trivial
  inside := id
  mono := Holds.mono

/-- A value that exists in every respect. -/
def Present (store : Store) (value : Value) : Prop :=
  store.Holds value ∧ value.Below store.objects.size

instance : Fitting Present where
  bare {store value} bare := by
    refine ⟨Fitting.bare bare,fun id same => ?_⟩
    subst same
    exact bare.elim
  made {store properties} := by
    refine ⟨trivial,fun id same => ?_⟩
    obtain rfl := Value.object.inj same
    simp [addObject]
  inside held := held.1
  mono held evolved :=
    ⟨held.1.mono evolved,fun id same => Nat.lt_of_lt_of_le (held.2 id same) evolved.objects⟩

theorem Evolves.all [Fitting fits] {values : List Value} (evolved : store.Evolves store')
    (held : ∀ value ∈ values, fits store value) : ∀ value ∈ values, fits store' value :=
  fun value member => Fitting.mono (held value member) evolved

/-! Each touch keeps a store sound and lets it evolve. -/

private theorem evolves_of_scopes (same : store'.scopes = store.scopes)
    (objects : store.objects.size ≤ store'.objects.size) : store.Evolves store' := by
  constructor <;> intros <;>
    simp_all [parent?,value?,declares,isConstant]

section
variable [Fitting fits]

private theorem sound_of_scopes (formed : store.Sound fits) (same : store'.scopes = store.scopes)
    (objects : store.objects.size ≤ store'.objects.size)
    (kept : ∀ {object key value}, store'.property? object key = some value →
      fits store value) : store'.Sound fits := by
  have holds {value : Value} (held : fits store value) : fits store' value :=
    Fitting.mono held (evolves_of_scopes same objects)
  constructor
  · intro scope name constant
    simp only [isConstant,declares,value?,same] at constant ⊢
    exact formed.declared constant
  · intro scope parent found
    simp only [parent?,same] at found
    exact formed.older found
  · intro scope name value found
    simp only [value?,same] at found
    exact holds (formed.held found)
  · intro object key value found
    exact holds (kept found)

omit [Fitting fits] in
theorem addScope_evolves (parent : Option ScopeId) : store.Evolves (store.addScope parent).2 where
  size := by
    rw [size_addScope]
    exact Nat.le_succ _
  objects := Nat.le_refl _
  parent inside := by
    rw [parent?_addScope,if_neg (Nat.ne_of_lt inside)]
  declared here := by simpa only [declares,value?_addScope] using here
  flag _ := isConstant_addScope
  value _ _ := value?_addScope

theorem addScope_sound (formed : store.Sound fits) {parent : Option ScopeId}
    (older : ∀ id ∈ parent, id < store.scopes.size) : (store.addScope parent).2.Sound fits where
  declared constant := by
    rw [isConstant_addScope] at constant
    simpa only [declares,value?_addScope] using formed.declared constant
  older found := by
    rw [parent?_addScope] at found
    split at found
    · next new => exact new ▸ older _ found
    · exact formed.older found
  held found := by
    rw [value?_addScope] at found
    exact Fitting.mono (formed.held found) (addScope_evolves parent)
  property found := Fitting.mono (formed.property found) (addScope_evolves parent)

omit [Fitting fits] in
/-- A value written to a name that is not constant: nothing else changes. -/
theorem bind_evolves {scope : ScopeId} {name : String} {value : Value} {constant : Bool}
    (free : store.isConstant name scope = false)
    (open' : store.declares name scope = true → constant = false) :
    store.Evolves (store.bind scope name value constant) where
  size := Nat.le_of_eq size_bind.symm
  objects := Nat.le_refl _
  parent _ := parent?_bind
  declared here := by
    unfold declares at here ⊢
    rw [value?_bind]
    split
    · rfl
    · exact here
  flag {place key} here := by
    rw [isConstant_bind]
    by_cases written : place = scope ∧ key = name
    · obtain ⟨rfl,rfl⟩ := written
      simp [open' here]
    · simp only [← and_assoc]
      simp [written]
  value {place key} here marked := by
    rw [value?_bind,if_neg]
    intro written
    obtain ⟨rfl,rfl,_⟩ := written
    simp [free] at marked

private theorem bind_sound {scope : ScopeId} {name : String} {value : Value} {constant : Bool}
    (formed : store.Sound fits) (free : store.isConstant name scope = false)
    (open' : store.declares name scope = true → constant = false) (held : fits store value) :
    (store.bind scope name value constant).Sound fits where
  declared {place key} marked := by
    rw [isConstant_bind,Bool.or_eq_true,decide_eq_true_iff] at marked
    unfold declares
    rw [value?_bind]
    split
    · rfl
    · next apart =>
      rcases marked with ⟨here,same,inside,_⟩ | marked
      · exact (apart ⟨here,same,inside⟩).elim
      · exact formed.declared marked
  older found := formed.older (parent?_bind ▸ found)
  held found := by
    rw [value?_bind] at found
    split at found
    · obtain rfl := Option.some.inj found
      exact Fitting.mono held (bind_evolves free open')
    · exact Fitting.mono (formed.held found) (bind_evolves free open')
  property found := Fitting.mono (formed.property found) (bind_evolves free open')

end

theorem declare_ok {scope : ScopeId} {name : String} {value : Value} {constant : Bool} :
    store.declare scope name value constant = .ok store' ↔
      store.declares name scope = false ∧ store.bind scope name value constant = store' := by
  unfold declare
  split
  · next taken => simp [taken]
  · next free => simp [free]

theorem assign_ok {scope : ScopeId} {name : String} {value : Value} :
    store.assign scope name value = .ok store' ↔
      ∃ owner, store.resolve? scope name = some owner ∧ store.isConstant name owner = false ∧
        store.bind owner name value false = store' := by
  unfold assign
  cases store.resolve? scope name with
  | none => simp
  | some owner =>
    dsimp only
    split
    · next marked => simp [marked]
    · next free => simp [free]

private theorem property?_writeProperty {object place : ObjectId} {key name : String}
    {value : Value} :
    (store.writeProperty object key value).property? place name =
      if place = object ∧ name = key ∧ object < store.objects.size then some value
      else store.property? place name := by
  simp only [property?,writeProperty,Array.getElem?_modify]
  by_cases here : object = place
  · subst here
    by_cases inside : object < store.objects.size
    · simp [inside,Table.get?_insert]
    · simp [inside]
  · simp [here,Ne.symm here]

theorem property?_addObject {properties : Table Value} {place : ObjectId} {name : String} :
    (store.addObject properties).2.property? place name =
      if place = store.objects.size then properties.get? name else store.property? place name := by
  simp only [property?,addObject,Array.getElem?_push]
  split <;> rfl

theorem Sound.free (formed : store.Sound fits) {scope : ScopeId} {name : String}
    (open' : store.declares name scope = false) : store.isConstant name scope = false := by
  cases marked : store.isConstant name scope with
  | false => rfl
  | true => exact (Bool.false_ne_true (open'.symm.trans (formed.declared marked))).elim

theorem Touch.evolves (touch : Touch fits store store') (formed : store.Sound fits) :
    store.Evolves store' := by
  cases touch with
  | scope parent older => exact addScope_evolves parent
  | object => exact evolves_of_scopes rfl (by simp [addObject])
  | property => exact evolves_of_scopes rfl (by simp [writeProperty])
  | native => exact evolves_of_scopes rfl (Nat.le_refl _)
  | closure => exact evolves_of_scopes rfl (Nat.le_refl _)
  | declare held ok =>
    obtain ⟨free,rfl⟩ := declare_ok.mp ok
    exact bind_evolves (formed.free free) (by simp [free])
  | assign held ok =>
    obtain ⟨owner,_,free,rfl⟩ := assign_ok.mp ok
    exact bind_evolves free fun _ => rfl

section
variable [Fitting fits]

theorem Touch.sound (touch : Touch fits store store') (formed : store.Sound fits) :
    store'.Sound fits := by
  cases touch with
  | scope parent older => exact addScope_sound formed older
  | object properties held =>
    refine sound_of_scopes formed rfl (by simp [addObject]) ?_
    intro object key value found
    rw [property?_addObject] at found
    split at found
    · exact held key value found
    · exact formed.property found
  | property object key value held =>
    refine sound_of_scopes formed rfl (by simp [writeProperty]) ?_
    intro place name other found
    rw [property?_writeProperty] at found
    split at found
    · exact Option.some.inj found ▸ held
    · exact formed.property found
  | native => exact sound_of_scopes formed rfl (Nat.le_refl _) formed.property
  | closure => exact sound_of_scopes formed rfl (Nat.le_refl _) formed.property
  | declare held ok =>
    obtain ⟨free,rfl⟩ := declare_ok.mp ok
    exact bind_sound formed (formed.free free) (by simp [free]) held
  | assign held ok =>
    obtain ⟨owner,_,free,rfl⟩ := assign_ok.mp ok
    exact bind_sound formed free (fun _ => rfl) held

/-- Any number of touches keeps the store sound and lets it evolve. -/
theorem Touches.keep (touches : Touches fits store store') (formed : store.Sound fits) :
    store'.Sound fits ∧ store.Evolves store' := by
  induction touches with
  | refl => exact ⟨formed,.refl store⟩
  | tail _ touch ih =>
    obtain ⟨before,evolved⟩ := ih
    exact ⟨touch.sound before,evolved.trans (touch.evolves before)⟩

end

theorem empty_sound : Store.empty.Sound fits := by
  constructor <;> intros <;>
    simp_all [Store.empty,isConstant,parent?,value?,property?]

end Store
end Scriptlet
