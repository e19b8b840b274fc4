/-! Tables from names to values, in ascending order of the names. -/
namespace Scriptlet

structure Table (α : Type) where
  entries : List (String × α)
  ascending : entries.Pairwise fun first second => first.1 < second.1

namespace Table
variable {α : Type}

def empty : Table α := ⟨[],.nil⟩

def get? (table : Table α) (name : String) : Option α := table.entries.lookup name

def contains (table : Table α) (name : String) : Bool := (table.get? name).isSome

def names (table : Table α) : List String := table.entries.map (·.1)

def insertEntry (name : String) (value : α) : List (String × α) → List (String × α)
  | [] => [(name,value)]
  | entry :: rest =>
    if name = entry.1 then (name,value) :: rest
    else if name < entry.1 then (name,value) :: entry :: rest
    else entry :: insertEntry name value rest

theorem mem_insertEntry {name : String} {value : α} {entries : List (String × α)}
    {entry : String × α} (member : entry ∈ insertEntry name value entries) :
    entry = (name,value) ∨ entry ∈ entries := by
  induction entries with
  | nil => exact .inl (List.mem_singleton.mp member)
  | cons first rest ih =>
    unfold insertEntry at member
    split at member
    · exact (List.mem_cons.mp member).imp_right (List.mem_cons_of_mem _)
    · split at member
      · exact List.mem_cons.mp member
      · rcases List.mem_cons.mp member with rfl | later
        · exact .inr List.mem_cons_self
        · exact (ih later).imp_right (List.mem_cons_of_mem _)

private theorem ascending_insertEntry (name : String) (value : α) {entries : List (String × α)}
    (ascending : entries.Pairwise fun first second => first.1 < second.1) :
    (insertEntry name value entries).Pairwise fun first second => first.1 < second.1 := by
  induction ascending with
  | nil => exact List.pairwise_singleton _ _
  | @cons first rest before ascending ih =>
    unfold insertEntry
    split
    · next same => exact .cons (fun entry member => same ▸ before entry member) ascending
    · next other =>
      split
      · next less =>
        refine .cons ?_ (.cons before ascending)
        intro entry member
        rcases List.mem_cons.mp member with rfl | later
        · exact less
        · exact String.lt_trans less (before entry later)
      · next least =>
        refine .cons ?_ ih
        intro entry member
        rcases mem_insertEntry member with rfl | later
        · refine Decidable.byContradiction fun above => other ?_
          exact String.le_antisymm (String.not_lt.mp above) (String.not_lt.mp least)
        · exact before entry later

def insert (table : Table α) (name : String) (value : α) : Table α :=
  ⟨insertEntry name value table.entries,ascending_insertEntry name value table.ascending⟩

end Table
end Scriptlet
