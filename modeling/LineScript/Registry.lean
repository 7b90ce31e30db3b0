/-! Values under names, in ascending order of the names and at most one under each. -/
namespace LineScript

/-- Values under names. -/
structure Registry (α : Type) where
  entries : List (String × α) := []
  deriving Repr

namespace Registry

variable {α : Type}

/-- Nothing under any name. -/
def empty : Registry α :=
  {}

/-- The value under a name. -/
def get? (r : Registry α) (name : String) : Option α :=
  r.entries.lookup name

/-- Whether there is a value under a name. -/
def contains (r : Registry α) (name : String) : Bool :=
  (r.get? name).isSome

/-- A sorted list with a value put under a name, in place of what was there. -/
def place (name : String) (value : α) : List (String × α) → List (String × α)
  | [] => [(name, value)]
  | (n, v) :: rest =>
    if name < n then (name, value) :: (n, v) :: rest
    else if name = n then (name, value) :: rest
    else (n, v) :: place name value rest

/-- Puts a value under a name, in place of what was there. -/
def insert (r : Registry α) (name : String) (value : α) : Registry α :=
  ⟨place name value r.entries⟩

/-- Removes the value under a name. -/
def erase (r : Registry α) (name : String) : Registry α :=
  ⟨r.entries.filter (·.1 != name)⟩

/-- The names, in ascending order. -/
def names (r : Registry α) : List String :=
  r.entries.map (·.1)

end Registry

end LineScript
