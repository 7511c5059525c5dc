import Mathlib.Logic.Function.Iterate
import StackScript.Execution

/-!
# A machine that runs programs in single steps

`StackScript.Execution` follows the limit on nesting: how deep bodies may still be opened is given
to it beforehand, and it runs a whole body before it goes on. The machine of this module knows
nothing of the kind. It keeps a list of tasks and does a bounded piece of work in each step
(`advance`), and it looks at the depth only when a body is about to be opened. Nothing in its
definition makes a run end.

A fault travels outwards through the tasks. Only a list of elements can stop it, by recording it and
going on.
-/

namespace StackScript

/-- Something that is still to be done. -/
inductive Task where
  /-- elements of a body that are still to be executed -/
  | elements (items : List Value)
  /-- the end of a body -/
  | leave
  /-- a counting loop that has come to the integer `current` -/
  | count (body : List Value) (current step limit : Int64)
  /-- a counting loop whose pass for the integer `current` is over -/
  | counted (body : List Value) (current step limit : Int64)
  /-- a loop that still has these values before it -/
  | each (body values : List Value)

/-- Where a run stands. -/
inductive Configuration where
  /-- the tasks are to be done, the first one next -/
  | running (tasks : List Task) (s : State)
  /-- a fault is on its way outwards through the tasks -/
  | raising (fault : Fault) (tasks : List Task) (s : State)
  /-- the run is over -/
  | finished (outcome : Outcome)

namespace Configuration

/-- The configuration in which a list of elements is to be executed and nothing else. -/
def start (items : List Value) (s : State) : Configuration :=
  .running [.elements items] s

/-- The configuration in which the tasks go on after an outcome. -/
def resume (tasks : List Task) : Outcome → Configuration
  | .done s => .running tasks s
  | .raised f s => .raising f tasks s

end Configuration

/-- Opens a body, unless as many are open as there may be. -/
def openBody (policy : Policy) (body : List Value) (tasks : List Task) (s : State) :
    Configuration :=
  if policy.maxDepth ≤ s.depth then .raising (.tooDeep policy.maxDepth) tasks s
  else .running (.elements body :: .leave :: tasks) s.deeper

/-- Begins the passes that a control operator asks for. -/
def beginPasses (policy : Policy) (passes : Passes) (tasks : List Task) (s : State) :
    Configuration :=
  match passes with
  | .none => .running tasks s
  | .once body => openBody policy body tasks s
  | .counting body start step limit => .running (.count body start step limit :: tasks) s
  | .each body values => .running (.each body values :: tasks) s

/-- Begins the execution of one element. -/
def beginElement (policy : Policy) (item : Value) (tasks : List Task) (s : State) :
    Configuration :=
  match item with
  | .operator (.primitive p) =>
    match p.perform policy.mode s.machine with
    | (.ok _, m) => .running tasks { s with machine := m }
    | (.error f, m) => .raising f tasks { s with machine := m }
  | .operator (.control c) =>
    match c.perform s.machine with
    | (.ok passes, m) => beginPasses policy passes tasks { s with machine := m }
    | (.error f, m) => .raising f tasks { s with machine := m }
  | .call n =>
    match s.machine.scopes.lookup? s.machine.store n.text with
    | none => .raising (.notFound n.text) tasks s
    | some v =>
      if policy.mode.skipsFalsyBindings && v.isFalsy s.machine.store then
        .raising (.falsyBinding n.text (v.text s.machine.store)) tasks s
      else
        match v with
        | .proc body => openBody policy body tasks s
        | data => .running tasks (s.push data)
  | .unknown n => .raising (.unknownSymbol n.text) tasks s
  | data => .running tasks (s.push data)

/-- One step of a run. A run that is over stays as it is. -/
def advance (policy : Policy) : Configuration → Configuration
  | .finished outcome => .finished outcome
  | .running [] s => .finished (.done s)
  | .running (.elements [] :: tasks) s => .running tasks s
  | .running (.elements (item :: rest) :: tasks) s =>
    beginElement policy item (.elements rest :: tasks) s
  | .running (.leave :: tasks) s => .running tasks s.shallower
  | .running (.count body current step limit :: tasks) s =>
    if isWithin current step limit then
      openBody policy body (.counted body current step limit :: tasks)
        (s.push (.number (.int current)))
    else .running tasks s
  | .running (.counted body current step limit :: tasks) s =>
    match Number.int64? (current.toInt + step.toInt) with
    | some next => .running (.count body next step limit :: tasks) s
    | none => .running tasks s
  | .running (.each _ [] :: tasks) s => .running tasks s
  | .running (.each body (v :: rest) :: tasks) s =>
    openBody policy body (.each body rest :: tasks) (s.push v)
  | .raising f [] s => .finished (.raised f s)
  | .raising f (.elements rest :: tasks) s =>
    if policy.mode.isFatal f then .raising f tasks s
    else .running (.elements rest :: tasks) (s.record f)
  | .raising f (.leave :: tasks) s => .raising f tasks s.shallower
  | .raising f (_ :: tasks) s => .raising f tasks s

/-! ## Reaching a configuration -/

/-- From one configuration the other is reached in finitely many steps. -/
def Reaches (policy : Policy) (c d : Configuration) : Prop :=
  ∃ n, (advance policy)^[n] c = d

namespace Reaches

variable {policy : Policy} {c d e : Configuration}

theorem refl (c : Configuration) : Reaches policy c c :=
  ⟨0, rfl⟩

theorem trans (h₁ : Reaches policy c d) (h₂ : Reaches policy d e) : Reaches policy c e := by
  obtain ⟨m, rfl⟩ := h₁
  obtain ⟨n, rfl⟩ := h₂
  exact ⟨n + m, Function.iterate_add_apply _ n m c⟩

/-- One step, and then further ones. -/
theorem head (h : Reaches policy (advance policy c) d) : Reaches policy c d := by
  obtain ⟨n, hn⟩ := h
  exact ⟨n + 1, hn⟩

/-- What is reached after one more step. -/
theorem tail (h : Reaches policy c d) : Reaches policy c (advance policy d) :=
  h.trans ⟨1, rfl⟩

/-- A run that goes on after an outcome with nothing left to do comes to that outcome. -/
theorem finish {outcome : Outcome} (h : Reaches policy c (.resume [] outcome)) :
    Reaches policy c (.finished outcome) := by
  cases outcome <;> exact h.tail

/-- Once a run is over, further steps change nothing. -/
theorem finished {outcome : Outcome} (h : Reaches policy c (.finished outcome)) :
    ∃ n, ∀ m, n ≤ m → (advance policy)^[m] c = .finished outcome := by
  obtain ⟨n, hn⟩ := h
  refine ⟨n, fun m hm => ?_⟩
  obtain ⟨k, rfl⟩ := Nat.exists_eq_add_of_le hm
  rw [Nat.add_comm, Function.iterate_add_apply, hn]
  exact Function.iterate_fixed rfl k

end Reaches

end StackScript
