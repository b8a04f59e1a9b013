/-!
# Limits

A script is run under two limits, which the host sets.
-/

namespace MeteredScript

/-- **The limits of a run.** -/
structure Config where
  /-- How much gas may be used before the run is cut short. -/
  gasLimit : Nat
  /-- How many calls and resumed generators may be inside one another. -/
  maxCallDepth : Nat
  deriving DecidableEq, Repr

/-- The limits that hold unless the host sets others. -/
def Config.standard : Config := ⟨1000000, 200⟩

instance : Inhabited Config := ⟨.standard⟩

end MeteredScript
