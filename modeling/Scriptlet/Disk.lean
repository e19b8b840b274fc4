import Scriptlet.Error

/-! Files by path. -/
namespace Scriptlet

inductive Entry where
  | file (bytes : List UInt8)
  | directory

abbrev Disk := String → Except IoFault Entry

namespace Disk

/-- Where a path has led: some directories below the start, nearest first, or to a directory
outside it. -/
inductive Place where
  | below (directories : List String)
  | outside

namespace Place

def start (path : String) : Place := if path.toList.head? = some '/' then outside else below []

def parent : Place → Place
  | below (_ :: above) => below above
  | _ => outside

def child : Place → String → Place
  | below above,name => below (name :: above)
  | outside,_ => outside

def next (place : Place) (component : String) : Place :=
  if component = "" || component = "." then place
  else if component = ".." then place.parent
  else place.child component

def holding : Place → Entry → List (List String × Entry)
  | below names,entry => [(names,entry)]
  | outside,_ => []

/-- An entry makes every directory that its path leads through exist. -/
def holdingAlong (entry : Entry) : Place → List String → List (List String × Entry)
  | place,[] => place.holding entry
  | place,component :: rest =>
    holdingAlong entry (place.next component) rest ++ place.holding .directory

end Place

def longestPath : Nat := 4095

def longestName : Nat := 255

def walk (held : List (List String × Entry)) : Place → List String → Except IoFault Entry
  | _,[] => .ok .directory
  | place,component :: rest =>
    if ["",".",".."].contains component then walk held (place.next component) rest
    else if longestName < component.utf8ByteSize then .error .invalidFilename
    else
      match place with
      | .outside => .error .notFound
      | .below above =>
        match held.lookup (component :: above) with
        | none => .error .notFound
        | some .directory => walk held (place.next component) rest
        | some (.file bytes) => if rest.isEmpty then .ok (.file bytes) else .error .notADirectory

/-- A disk that holds the entries, named by paths as they are opened; of two at one place the
later stays. -/
def ofEntries (entries : List (String × Entry)) : Disk :=
  let held := entries.reverse.flatMap fun entry =>
    Place.holdingAlong entry.2 (.start entry.1) (entry.1.splitOn "/")
  fun path =>
    if path.toList.contains '\x00' then .error .invalidInput
    else if path.isEmpty then .error .notFound
    else if longestPath < path.utf8ByteSize then .error .invalidFilename
    else walk held (.start path) (path.splitOn "/")

end Disk
end Scriptlet
