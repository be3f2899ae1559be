import ReactLint.Hook

/-!
# Atomic design levels

Which folder of an atomic design a component belongs in, judged by how often its text invokes state
hooks and effects and uses other components.
-/

namespace ReactLint

open Text

/-- The levels of an atomic design, from the simplest. -/
inductive AtomicLevel where
  | atom
  | molecule
  | organism
  deriving DecidableEq, Repr

namespace AtomicLevel

/-- The folder of a level. -/
def folder : AtomicLevel → String
  | atom => "atoms"
  | molecule => "molecules"
  | organism => "organisms"

/-- Whether a component is used here. -/
def isComponentTag (p : Place) : Bool := (skip? "<" p.rest).any fun t => t.head?.any isCapital

/-- The level for these numbers of state hooks, effects and components used. -/
def ofCounts (states effects tags : Nat) : AtomicLevel :=
  if states = 0 ∧ effects = 0 ∧ tags ≤ 3 then atom
  else if states ≤ 2 ∧ tags ≤ 8 then molecule
  else organism

/-- The level for a component's text. -/
def suggest (content : Text) : AtomicLevel :=
  ofCounts (countPlaces Hook.isStateCall content)
    (countPlaces (Hook.isCallOf ["useEffect"]) content) (countPlaces isComponentTag content)

end AtomicLevel

end ReactLint
