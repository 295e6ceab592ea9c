import Latchkey.Error

set_option autoImplicit false

/-! # The registry of tasks

The registry lists tasks, given by number and name, in the order of their registration, and keeps
the names in use apart from the list. A name is registered at most once. -/

namespace Latchkey

/-- A listed task. -/
structure RegistryEntry where
  number : Nat
  name : String
deriving DecidableEq, Repr

/-- The listed tasks, and the names in use. -/
structure Registry where
  entries : List RegistryEntry := []
  taken : List String := []
deriving DecidableEq, Repr

namespace Registry

/-- The registry without tasks. -/
def empty : Registry := {}

/-- Whether a name is in use. -/
def contains (r : Registry) (name : String) : Bool :=
  r.taken.contains name

/-- Adds a task under a free name. -/
def register (r : Registry) (entry : RegistryEntry) : Except Error Registry :=
  if r.contains entry.name then .error (.duplicateTask entry.name)
  else .ok ⟨r.entries ++ [entry], entry.name :: r.taken⟩

/-- Removes the task of a name, if the name is in use. -/
def unregister (r : Registry) (name : String) : Registry :=
  if r.contains name then
    ⟨r.entries.filter fun e => e.name ≠ name, r.taken.filter fun taken => taken ≠ name⟩
  else r

/-- The listed names, in the order of registration. -/
def names (r : Registry) : List String :=
  r.entries.map (·.name)

/-- How many tasks are listed. -/
def size (r : Registry) : Nat :=
  r.entries.length

/-- The number of the listed task of a name. -/
def find? (r : Registry) (name : String) : Option Nat :=
  (r.entries.find? fun e => e.name = name).map (·.number)

/-- What a search for a name that is not listed fails with. -/
def notListed (name : String) : Error :=
  .notFound "ScheduledTask" name

end Registry

end Latchkey
