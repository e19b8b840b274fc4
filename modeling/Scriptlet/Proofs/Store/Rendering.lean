import Mathlib.Data.Finset.Card
import Mathlib.Data.Finset.Range
import Mathlib.Data.List.Perm.Basic
import Scriptlet.Proofs.Store.Touch
import Scriptlet.Store.Text

/-! Values as text. What is written is the unfolding of a value along the paths from it: an
object is cut off where it encloses itself, and nowhere else. The text depends on what the
properties are, not on how the objects are stored. -/
namespace Scriptlet

def Value.plain? : Value → Option String
  | .number value => some (Number.plain.text value)
  | .boolean value => some (if value then "true" else "false")
  | .null => some "null"
  | .object _ => none
  | .native function => some ("<native fn " ++ function.name ++ ">")
  | .closure function => some ("<fn " ++ function.name ++ ">")

def Value.move (rename : ObjectId → ObjectId) : Value → Value
  | .object id => .object (rename id)
  | value => value

namespace Value

variable {rename : ObjectId → ObjectId} {value : Value}

private theorem object_of_plain? (unknown : value.plain? = none) : ∃ id, value = .object id := by
  cases value with
  | object id => exact ⟨id,rfl⟩
  | number | boolean | null | native | closure => simp [plain?] at unknown

private theorem plain?_move : (value.move rename).plain? = value.plain? := by
  cases value <;> rfl

private theorem move_id : value.move id = value := by
  cases value <;> rfl

end Value

namespace Store

variable {store store' : Store} {depth : Nat} {path : List ObjectId} {id : ObjectId}
  {value : Value} {text : String}

private theorem ascending_properties :
    (store.properties id).Pairwise fun first second => first.1 < second.1 := by
  unfold properties
  split
  · next table _ => exact table.ascending
  · exact .nil

theorem mem_properties {key : String} :
    (key,value) ∈ store.properties id ↔ store.property? id key = some value := by
  unfold properties property?
  cases store.objects[id]? with
  | none => simp
  | some table => exact table.mem_entries

def braced (fields : List (String × String)) : String :=
  "\x7b " ++ String.intercalate ", " (fields.map fun field => field.1 ++ ": " ++ field.2) ++ " \x7d"

/-! What the objects that are being written are before and after. -/

private theorem run_mapM {α β σ : Type} {act : α → StateM σ β} {outcome : α → β} {state : σ}
    {entries : List α}
    (each : ∀ entry ∈ entries, (act entry).run state = pure (outcome entry,state)) :
    (entries.mapM act).run state = pure (entries.map outcome,state) := by
  induction entries with
  | nil => rfl
  | cons entry entries ih =>
    have first := each entry List.mem_cons_self
    have rest := ih fun other member => each other (List.mem_cons_of_mem _ member)
    simp only [List.mapM_cons,StateT.run_bind,first,rest,pure_bind,StateT.run_pure,List.map_cons]

/-- All three ways out of an object: cut off, without properties, or with each of them written
below the object. -/
theorem write_object (inner : Value → String)
    (each : ∀ entry ∈ store.properties id,
      (store.write depth entry.2).run (id :: path) = pure (inner entry.2,id :: path)) :
    (store.write (depth + 1) (.object id)).run path =
      pure (if id ∈ path then "\x7b...\x7d"
        else if store.properties id = [] then "\x7b\x7d"
        else braced ((store.properties id).map fun entry => (entry.1,inner entry.2)),path) := by
  have texts : ((store.properties id).mapM fun (entry : String × Value) => do
      return entry.1 ++ ": " ++ (← store.write depth entry.2)).run (id :: path) =
      pure ((store.properties id).map fun entry => entry.1 ++ ": " ++ inner entry.2,id :: path) :=
    run_mapM fun entry member => by
      simp only [StateT.run_bind,each entry member,pure_bind,StateT.run_pure]
  rw [write]
  simp only [StateT.run_bind,StateT.run_get,pure_bind,List.contains_iff_mem]
  by_cases again : id ∈ path
  · simp [again]
  · simp only [if_neg again,StateT.run_bind,StateT.run_modify,pure_bind,List.isEmpty_iff]
    by_cases none : store.properties id = []
    · simp [none]
    · simp only [if_neg none,StateT.run_bind,texts,pure_bind,StateT.run_modify,StateT.run_pure]
      simp [braced,Function.comp_def]

private theorem write_run (value : Value) :
    (store.write depth value).run path = pure (store.render depth path value,path) := by
  have state : ((store.write depth value).run path).run.2 = path := by
    induction depth generalizing value path with
    | zero => cases value <;> rfl
    | succ depth ih =>
      cases value with
      | object id =>
        rw [write_object (store.render depth (id :: path)) fun entry _ => Prod.ext rfl (ih entry.2)]
        rfl
      | number | boolean | null | native | closure => rfl
  exact Prod.ext rfl state

theorem render_object :
    store.render (depth + 1) path (.object id) =
      if id ∈ path then "\x7b...\x7d"
      else if store.properties id = [] then "\x7b\x7d"
      else braced ((store.properties id).map fun entry =>
        (entry.1,store.render depth (id :: path) entry.2)) := by
  rw [render,write_object _ fun entry _ => write_run entry.2]
  rfl

private theorem render_plain (plain : value.plain? = some text) :
    store.render depth path value = text := by
  cases value with
  | object id => exact absurd plain nofun
  | number | boolean | null | native | closure => cases depth <;> exact Option.some.inj plain

/-! The unfolding. -/

structure Keys (store : Store) (id : ObjectId) (keys : List String) : Prop where
  ascending : keys.Pairwise (· < ·)
  complete : ∀ key, key ∈ keys ↔ (store.property? id key).isSome

/-- The unfolding of a value inside the objects of a path, which are cut off where they come
again. -/
inductive Written (store : Store) : List ObjectId → Value → String → Prop where
  | plain {path : List ObjectId} {value : Value} {text : String}
      (plain : value.plain? = some text) : Written store path value text
  | again {path : List ObjectId} {id : ObjectId} (encloses : id ∈ path) :
      Written store path (.object id) "\x7b...\x7d"
  | empty {path : List ObjectId} {id : ObjectId} (fresh : id ∉ path) (none : store.Keys id []) :
      Written store path (.object id) "\x7b\x7d"
  | full {path : List ObjectId} {id : ObjectId} {keys : List String} {inner : String → String}
      (fresh : id ∉ path) (listed : store.Keys id keys) (nonempty : keys ≠ [])
      (each : ∀ key value, store.property? id key = some value →
        Written store (id :: path) value (inner key)) :
      Written store path (.object id) (braced (keys.map fun key => (key,inner key)))

/-- The whole unfolding of a value, with nothing cut off. -/
inductive Spelled (store : Store) : Value → String → Prop where
  | plain {value : Value} {text : String} (plain : value.plain? = some text) :
      Spelled store value text
  | empty {id : ObjectId} (none : store.Keys id []) : Spelled store (.object id) "\x7b\x7d"
  | full {id : ObjectId} {keys : List String} {inner : String → String}
      (listed : store.Keys id keys) (nonempty : keys ≠ [])
      (each : ∀ key value, store.property? id key = some value →
        Spelled store value (inner key)) :
      Spelled store (.object id) (braced (keys.map fun key => (key,inner key)))

private theorem keys_properties (store : Store) (id : ObjectId) :
    store.Keys id ((store.properties id).map (·.1)) where
  ascending := List.pairwise_map.mpr ascending_properties
  complete key := by
    simp only [List.mem_map,Option.isSome_iff_exists,← mem_properties]
    constructor
    · rintro ⟨entry,member,rfl⟩
      exact ⟨entry.2,member⟩
    · rintro ⟨value,member⟩
      exact ⟨(key,value),member,rfl⟩

private theorem fields_by_key (inner : Value → String) :
    ((store.properties id).map fun entry => (entry.1,inner entry.2)) =
      ((store.properties id).map (·.1)).map fun key =>
        (key,inner ((store.property? id key).getD .null)) := by
  rw [List.map_map]
  refine List.map_congr_left fun entry member => ?_
  simp [mem_properties.mp member]

theorem Keys.unique {keys keys' : List String} (first : store.Keys id keys)
    (second : store.Keys id keys') : keys = keys' := by
  have same : keys.Perm keys' :=
    (List.perm_ext_iff_of_nodup first.ascending.nodup second.ascending.nodup).mpr fun key =>
      (first.complete key).trans (second.complete key).symm
  refine List.Perm.eq_of_pairwise ?_ first.ascending second.ascending same
  intro less more _ _ below above
  exact absurd (String.lt_trans below above) (String.lt_irrefl _)

def beside (store : Store) (path : List ObjectId) : Nat :=
  (Finset.range store.objects.size \ path.toFinset).card

private theorem beside_nil : store.beside [] = store.objects.size := by
  simp [beside]

private theorem beside_cons {id : ObjectId} {path : List ObjectId}
    (inside : id < store.objects.size)
    (fresh : id ∉ path) : store.beside (id :: path) < store.beside path := by
  unfold beside
  rw [List.toFinset_cons,Finset.sdiff_insert]
  apply Finset.card_erase_lt_of_mem
  simp [inside,fresh]

private theorem inside_of_property {key : String} (found : store.property? id key = some value) :
    id < store.objects.size := by
  obtain ⟨_,object,_⟩ := Option.bind_eq_some_iff.mp found
  exact (Array.getElem?_eq_some_iff.mp object).1

private theorem written_render (enough : store.beside path < depth) (value : Value) :
    store.Written path value (store.render depth path value) := by
  induction depth generalizing path value with
  | zero => exact absurd enough (Nat.not_lt_zero _)
  | succ depth ih =>
    cases known : value.plain? with
    | some text => exact render_plain known ▸ .plain known
    | none =>
      obtain ⟨id,rfl⟩ := Value.object_of_plain? known
      rw [render_object]
      split
      · next again => exact .again again
      · next fresh =>
        split
        · next none =>
          have keys := store.keys_properties id
          rw [none] at keys
          exact .empty fresh keys
        · next some =>
          rw [fields_by_key]
          refine .full fresh (store.keys_properties id) (by simpa using some) ?_
          intro key content found
          have fewer := beside_cons (inside_of_property found) fresh
          simpa [found] using ih (by omega) content

theorem Written.unique {text' : String} (first : store.Written path value text)
    (second : store.Written path value text') : text = text' := by
  induction first generalizing text' with
  | plain known =>
    cases second with
    | plain known' => exact Option.some.inj (known.symm.trans known')
    | again | empty | full => exact absurd known nofun
  | again encloses =>
    cases second with
    | plain known => exact absurd known nofun
    | again => rfl
    | empty fresh | full fresh => exact absurd encloses fresh
  | empty fresh none =>
    cases second with
    | plain known => exact absurd known nofun
    | again encloses => exact absurd encloses fresh
    | empty => rfl
    | full _ listed nonempty => exact absurd (listed.unique none) nonempty
  | @full path id keys inner fresh listed nonempty each ih =>
    cases second with
    | plain known => exact absurd known nofun
    | again encloses => exact absurd encloses fresh
    | empty _ none => exact absurd (listed.unique none) nonempty
    | full _ listed' _ each' =>
      obtain rfl := listed.unique listed'
      congr 1
      refine List.map_congr_left fun key member => ?_
      obtain ⟨content,found⟩ := Option.isSome_iff_exists.mp ((listed.complete key).mp member)
      rw [ih key content found (each' key content found)]

private theorem written_iff {written : String} (known : store.Written path value written) :
    store.Written path value text ↔ text = written :=
  ⟨fun other => other.unique known,fun same => same ▸ known⟩

private theorem written_text (value : Value) : store.Written [] value (store.text value) :=
  written_render (beside_nil ▸ Nat.lt_succ_self _) value

/-- The limit of a text on its depth is never used up. -/
theorem render_eq_text {depth : Nat} (enough : store.objects.size < depth) (value : Value) :
    store.render depth [] value = store.text value := by
  exact (written_render (beside_nil ▸ enough) value).unique (written_text value)

/-- The objects of the region have the same properties elsewhere, under other identities. -/
structure Moved (rename : ObjectId → ObjectId) (region : ObjectId → Prop)
    (store store' : Store) : Prop where
  closed : ∀ id, region id → ∀ key inner, store.property? id key = some (.object inner) →
    region inner
  apart : ∀ first second, region first → region second → rename first = rename second →
    first = second
  alike : ∀ id, region id → ∀ key,
    store'.property? (rename id) key = (store.property? id key).map (·.move rename)

section
variable {rename : ObjectId → ObjectId} {region : ObjectId → Prop}
  (moved : Moved rename region store store')
include moved

theorem Moved.keys {keys : List String} (inside : region id) (listed : store.Keys id keys) :
    store'.Keys (rename id) keys where
  ascending := listed.ascending
  complete key := by rw [moved.alike id inside,Option.isSome_map,listed.complete]

theorem Moved.fresh (around : ∀ outer ∈ path, region outer) (inside : region id)
    (fresh : id ∉ path) : rename id ∉ path.map rename := by
  intro member
  obtain ⟨outer,encloses,same⟩ := List.mem_map.mp member
  exact fresh (moved.apart outer id (around outer encloses) inside same ▸ encloses)

theorem Moved.written (around : ∀ outer ∈ path, region outer)
    (held : ∀ id, value = .object id → region id) (written : store.Written path value text) :
    store'.Written (path.map rename) (value.move rename) text := by
  induction written with
  | plain known => exact .plain (Value.plain?_move.trans known)
  | again encloses => exact .again (List.mem_map_of_mem encloses)
  | @empty path id fresh none =>
    exact .empty (moved.fresh around (held id rfl) fresh) (moved.keys (held id rfl) none)
  | @full path id keys inner fresh listed nonempty each ih =>
    refine .full (moved.fresh around (held id rfl) fresh) (moved.keys (held id rfl) listed)
      nonempty ?_
    intro key content found
    rw [moved.alike id (held id rfl)] at found
    obtain ⟨before,known,rfl⟩ := Option.map_eq_some_iff.mp found
    refine ih key before known ?_ ?_
    · exact List.forall_mem_cons.mpr ⟨held id rfl,around⟩
    · rintro inner rfl
      exact moved.closed id (held id rfl) key inner known

theorem Moved.same_text (value : Value) (held : ∀ id, value = .object id → region id) :
    store'.text (value.move rename) = store.text value := by
  have there := moved.written (by simp) held (written_text value)
  exact (written_text _).unique there

end

private theorem text_congr (same : ∀ id key, store'.property? id key = store.property? id key)
    (value : Value) : store'.text value = store.text value := by
  have moved : Moved id (fun _ => True) store store' := by
    refine ⟨fun _ _ _ _ _ => trivial,fun _ _ _ _ equal => equal,fun object _ key => ?_⟩
    rw [id,same object key]
    cases store.property? object key <;> simp [Value.move_id]
  simpa [Value.move_id] using moved.same_text value fun _ _ => trivial

/-! Where an object is cut off. -/

private theorem braced_ne {fields : List (String × String)} (other : text.toList[1]? ≠ some ' ') :
    braced fields ≠ text := by
  rintro rfl
  simp [braced] at other

private theorem Written.cut (written : store.Written path (.object id) text) :
    text = "\x7b...\x7d" ↔ id ∈ path := by
  cases written with
  | plain known => exact absurd known nofun
  | again encloses => exact iff_of_true rfl encloses
  | empty fresh => exact iff_of_false (by simp) fresh
  | full fresh => exact iff_of_false (braced_ne (by simp)) fresh

theorem Written.bare (written : store.Written path (.object id) text) :
    text = "\x7b\x7d" ↔ id ∉ path ∧ ∀ key, store.property? id key = none := by
  cases written with
  | plain known => exact absurd known nofun
  | again encloses => exact iff_of_false (by simp) fun bare => bare.1 encloses
  | empty fresh none => simpa [fresh] using none.complete
  | full fresh listed nonempty =>
    refine iff_of_false (braced_ne (by simp)) fun bare => ?_
    obtain ⟨key,member⟩ := List.exists_mem_of_ne_nil _ nonempty
    simpa [bare.2 key] using (listed.complete key).mp member

/-! The order in which properties are written. -/

private theorem writeProperty_comm {key key' : String} (apart : key ≠ key')
    (content content' : Value) :
    (store.writeProperty id key content).writeProperty id key' content' =
      (store.writeProperty id key' content').writeProperty id key content := by
  have objects : (store.objects.modify id (·.insert key content)).modify id
      (·.insert key' content') = (store.objects.modify id (·.insert key' content')).modify id
      (·.insert key content) := by
    apply Array.ext_getElem?
    intro place
    simp only [Array.getElem?_modify]
    split
    · cases store.objects[place]? with
      | none => rfl
      | some table => simp [table.insert_comm apart]
    · rfl
  exact congrArg (fun objects => {store with objects}) objects

def writeProperties (store : Store) (id : ObjectId) (entries : List (String × Value)) : Store :=
  entries.foldl (fun store entry => store.writeProperty id entry.1 entry.2) store

private theorem writeProperties_perm {entries entries' : List (String × Value)}
    (same : entries.Perm entries') (apart : (entries.map (·.1)).Nodup) :
    store.writeProperties id entries = store.writeProperties id entries' := by
  refine same.foldl_eq' (fun first member second member' before => ?_) store
  by_cases equal : first.1 = second.1
  · obtain rfl := List.inj_on_of_nodup_map apart member member' equal
    rfl
  · exact writeProperty_comm equal _ _

/-! Values without cycles. -/

def Owns (store : Store) (outer inner : ObjectId) : Prop :=
  ∃ key, store.property? outer key = some (.object inner)

/-- No object that can be reached from the value encloses itself, however deep. -/
def Acyclic (store : Store) (value : Value) : Prop :=
  ∀ id, value = .object id → ∀ reached, Relation.ReflTransGen store.Owns id reached →
    ¬Relation.TransGen store.Owns reached reached

theorem Acyclic.property {key : String} (acyclic : store.Acyclic (.object id))
    (found : store.property? id key = some value) : store.Acyclic value := by
  rintro inner rfl reached onward
  exact acyclic id rfl reached (.head ⟨key,found⟩ onward)

private theorem acyclic_of_properties
    (each : ∀ key value, store.property? id key = some value → store.Acyclic value) :
    store.Acyclic (.object id) := by
  have below (next : ObjectId) (step : store.Owns id next) (reached : ObjectId)
      (onward : Relation.ReflTransGen store.Owns next reached) :
      ¬Relation.TransGen store.Owns reached reached := by
    obtain ⟨key,found⟩ := step
    exact each key _ found next rfl reached onward
  rintro _ ⟨⟩ reached onward cycle
  rcases onward.cases_head with rfl | ⟨next,step,more⟩
  · obtain ⟨next,step,back⟩ := Relation.TransGen.head'_iff.mp cycle
    exact below next step next .refl (.tail' back step)
  · exact below next step reached more cycle

private theorem Spelled.acyclic (spelled : store.Spelled value text) : store.Acyclic value := by
  induction spelled with
  | plain known =>
    rintro id rfl
    exact absurd known nofun
  | empty none =>
    refine acyclic_of_properties fun key content found => ?_
    exact absurd ((none.complete key).mpr (found ▸ rfl)) List.not_mem_nil
  | full _ _ _ ih => exact acyclic_of_properties ih

private theorem Written.spelled (written : store.Written path value text)
    (around : ∀ outer ∈ path, ∀ inner, value = .object inner →
      Relation.TransGen store.Owns outer inner)
    (acyclic : store.Acyclic value) : store.Spelled value text := by
  -- Each object on the path encloses the value, so that meeting one again is a cycle.
  induction written with
  | plain known => exact .plain known
  | again encloses => exact absurd (around _ encloses _ rfl) (acyclic _ rfl _ .refl)
  | empty _ none => exact .empty none
  | @full path id keys inner fresh listed nonempty each ih =>
    refine .full listed nonempty fun key content found => ?_
    refine ih key content found ?_ (acyclic.property found)
    rintro outer member inner rfl
    have step : store.Owns id inner := ⟨key,found⟩
    rcases List.mem_cons.mp member with rfl | encloses
    · exact .single step
    · exact (around outer encloses id rfl).tail step

/-- A value is written as its unfolding along the paths from it, and as nothing else, however the
objects enclose or share one another. Each call writes the unfolding inside the objects that are
being written, and leaves these as it found them. An object is cut off just where it encloses
itself; nothing is cut off in a value without cycles, and in no other. Neither the order in which
properties were written nor the way objects are stored makes a difference. -/
theorem text_unfolds (store : Store) (value : Value) :
    (∀ text, store.Written [] value text ↔ text = store.text value) ∧
    (∀ depth path inner,
      (store.write depth inner).run path = pure (store.render depth path inner,path) ∧
      (store.beside path < depth →
        ∀ text, store.Written path inner text ↔ text = store.render depth path inner)) ∧
    (∀ path id text, store.Written path (.object id) text →
      (text = "\x7b...\x7d" ↔ id ∈ path) ∧
      (text = "\x7b\x7d" ↔ id ∉ path ∧ ∀ key, store.property? id key = none)) ∧
    (store.Acyclic value ↔ store.Spelled value (store.text value)) ∧
    (∀ id entries entries', entries.Perm entries' → (entries.map (·.1)).Nodup →
      (store.writeProperties id entries).text value =
        (store.writeProperties id entries').text value) ∧
    ∀ store' : Store, (∀ id key, store'.property? id key = store.property? id key) →
      store'.text value = store.text value := by
  refine ⟨fun text => written_iff (written_text value),?_,?_,?_,?_,
    fun _ same => text_congr same value⟩
  · intro depth path inner
    exact ⟨write_run inner,fun enough text => written_iff (written_render enough inner)⟩
  · intro path id text written
    exact ⟨written.cut,written.bare⟩
  · exact ⟨(written_text value).spelled (by simp),Spelled.acyclic⟩
  · intro id entries entries' same apart
    rw [writeProperties_perm same apart]

/-- An object that two others share is written twice; one that encloses itself is cut off. -/
theorem text_unfolds_shared :
    let store : Store := ⟨#[],#[⟨[("a",.null),("self",.object 0)],by decide⟩,
      ⟨[("x",.null)],by decide⟩,⟨[("left",.object 1),("right",.object 1)],by decide⟩],0⟩
    store.Acyclic (.object 2) ∧
      store.Spelled (.object 2) "\x7b left: \x7b x: null \x7d, right: \x7b x: null \x7d \x7d" ∧
      store.Written [] (.object 0) "\x7b a: null, self: \x7b...\x7d \x7d" ∧
      (store.write 3 (.object 1)).run [2] = pure ("\x7b x: null \x7d",[2]) ∧
      (store.writeProperties 1 [("z",.null),("y",.null)]).text (.object 1) =
        (store.writeProperties 1 [("y",.null),("z",.null)]).text (.object 1) := by
  intro store
  have leaf : store.Acyclic (.object 1) := by
    refine acyclic_of_properties fun key value found => ?_
    obtain ⟨_,rfl⟩ : key = "x" ∧ value = .null := by
      simpa [store,properties] using mem_properties.mpr found
    intro id same
    cases same
  have acyclic : store.Acyclic (.object 2) := by
    refine acyclic_of_properties fun key value found => ?_
    have member : key = "left" ∧ value = .object 1 ∨ key = "right" ∧ value = .object 1 := by
      simpa [store,properties] using mem_properties.mpr found
    rcases member with ⟨_,rfl⟩ | ⟨_,rfl⟩
    · exact leaf
    · exact leaf
  obtain ⟨_,calls,_,whole,_⟩ := text_unfolds store (.object 2)
  obtain ⟨unfolds,_⟩ := text_unfolds store (.object 0)
  obtain ⟨_,_,_,_,ordered,_⟩ := text_unfolds store (.object 1)
  exact ⟨acyclic,whole.mp acyclic,(unfolds _).mpr rfl,(calls 3 [2] (.object 1)).1,
    ordered 1 _ _ (.swap _ _ _) (by simp)⟩

end Store
end Scriptlet
