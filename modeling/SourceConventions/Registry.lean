/-!
# Registries

A registry keeps parts under names. A part can be made when it is first asked for and is kept from
then on. A keeper hands out one and the same registry until it is reset.
-/

namespace SourceConventions

structure Registry (α : Type) where
  parts : List (String × α)

/-- A name under which nothing is registered. -/
structure Unregistered where
  name : String
  deriving DecidableEq, Repr

def Unregistered.text (u : Unregistered) : String := s!"Dependency '{u.name}' not registered."

namespace Registry

variable {α ε : Type}

/-- Keeps a part under a name, in the place of what was there. -/
def register (name : String) (part : α) (r : Registry α) : Registry α :=
  ⟨(name, part) :: r.parts.filter (·.1 != name)⟩

def get? (name : String) (r : Registry α) : Except Unregistered α :=
  match r.parts.lookup name with
  | some part => .ok part
  | none => .error ⟨name⟩

/-- The part under a name, which is made and kept if there is none. -/
def getOrMake (name : String) (make : Except ε α) (r : Registry α) : Except ε (α × Registry α) :=
  match r.parts.lookup name with
  | some part => .ok (part, r)
  | none => make.map fun part => (part, r.register name part)

end Registry

/-- Hands out a registry, told by its number. -/
structure RegistryKeeper where
  current : Option Nat
  made : Nat
  deriving DecidableEq, Repr

namespace RegistryKeeper

def new : RegistryKeeper := ⟨none, 0⟩

/-- The registry in use, or a new one if there is none. -/
def hand (k : RegistryKeeper) : Nat × RegistryKeeper :=
  match k.current with
  | some n => (n, k)
  | none => (k.made, ⟨some k.made, k.made + 1⟩)

def reset (k : RegistryKeeper) : RegistryKeeper := { k with current := none }

end RegistryKeeper

end SourceConventions
