import StackScript.Fault

/-!
# Modes

The language has four corners on which opinions differ, and two modes that settle them differently.
The *compatible* mode treats a binding to a falsy value as missing, ignores a `begin` without a
dictionary, and stops the run at an `end` without a scope and at a loop whose step is zero. The
*hardened* mode treats every binding alike and reports the other three as ordinary faults.

A fault that does not stop the run is recorded, and the run goes on with the next element of the
program. Exceeding the limit on nesting stops the run in both modes.
-/

namespace StackScript

/-- How the corners of the language are settled. -/
inductive Mode where
  /-- the traditional behaviour -/
  | compatible
  /-- the strict behaviour -/
  | hardened
  deriving DecidableEq, Repr, Inhabited

namespace Mode

/-- Whether a name bound to a falsy value counts as not bound. -/
def skipsFalsyBindings : Mode → Bool
  | .compatible => true
  | .hardened => false

/-- Whether `begin` insists on a dictionary. -/
def checksBegin : Mode → Bool
  | .compatible => false
  | .hardened => true

/-- Whether a fault stops the run. -/
def isFatal : Mode → Fault → Bool
  | _, .tooDeep _ => true
  | .compatible, .noScope | .compatible, .zeroStep => true
  | _, _ => false

/-- The limit on nesting that applies when no other is asked for. -/
def defaultMaxDepth : Nat :=
  10000

end Mode

/-- What a session is held to. -/
structure Policy where
  /-- how the corners of the language are settled -/
  mode : Mode
  /-- how many bodies may be open within each other -/
  maxDepth : Nat
  deriving DecidableEq, Repr

namespace Policy

/-- The policy that applies when nothing else is asked for. -/
def standard : Policy :=
  ⟨.compatible, Mode.defaultMaxDepth⟩

instance : Inhabited Policy := ⟨standard⟩

end Policy

end StackScript
