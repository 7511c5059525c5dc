import StackScript.Proofs.Operator.Effect
import StackScript.Proofs.Run.Termination

/-!
# What single steps do to the machine

`Machine.Step` lists what a single step of a run can do to the machine that operators work on, and
`step_advance` proves that there is nothing else. So a property of machines that survives these
steps holds at every point of a run, also in the midst of a body, and not only where the run ends.

Runs start by executing a list of elements or by executing one operator. That the first come to the
outcome of `execute` is `reaches_execute`; here it is shown of the second (`reaches_call`).
-/

namespace StackScript

/-- The state that a run is in. -/
def Configuration.state : Configuration → State
  | .running _ s => s
  | .raising _ _ s => s
  | .finished outcome => outcome.state

/-- What a single step of a run can do to the machine. -/
inductive Machine.Step (m : Machine) : Machine → Prop where
  /-- nothing -/
  | refl : Step m m
  /-- a primitive has its effect -/
  | primitive {after : Machine} (h : Primitive.Effect m after) : Step m after
  /-- a control operator takes its operands -/
  | control {c : Control} {passes : Passes} {rest : Operands}
    (h : Control.Effect m c passes rest) : Step m { m with operands := rest }
  /-- a value is pushed -/
  | push (v : Value) : Step m (m.push v)

section Steps

variable (policy : Policy) (tasks : List Task) (s : State)

/-- Opening a body does nothing to the machine. -/
theorem machine_openBody (body : List Value) :
    (openBody policy body tasks s).state.machine = s.machine := by
  rw [openBody]
  split <;> rfl

/-- Beginning passes does nothing to the machine. -/
theorem machine_beginPasses (passes : Passes) :
    (beginPasses policy passes tasks s).state.machine = s.machine := by
  cases passes with
  | once body => exact machine_openBody policy tasks s body
  | _ => rfl

/-- Executing an element does one of the listed things to the machine. -/
theorem step_beginElement (item : Value) :
    s.machine.Step (beginElement policy item tasks s).state.machine := by
  cases item with
  | operator op =>
    cases op with
    | primitive p =>
      rw [beginElement, perform_primitive]
      rcases h : p.apply policy.mode s.machine with f | m
      · exact .refl
      · exact .primitive (Primitive.effect_of_apply h)
    | control c =>
      rw [beginElement, perform_control]
      rcases h : c.prepare s.machine with f | ⟨passes, m⟩
      · exact .refl
      · obtain ⟨rest, heffect, rfl⟩ := Control.effect_of_prepare h
        dsimp only [Control.settledPasses]
        rw [machine_beginPasses]
        exact .control heffect
  | call n =>
    rw [beginElement]
    split
    · exact .refl
    · split
      · exact .refl
      · split
        · rw [machine_openBody]
          exact .refl
        · exact .push _
  | unknown n => exact .refl
  | _ => exact .push _

/-- **A step of a run** does one of the listed things to the machine. -/
theorem step_advance (c : Configuration) :
    c.state.machine.Step (advance policy c).state.machine := by
  cases c with
  | finished outcome => exact .refl
  | raising f tasks s =>
    cases tasks with
    | nil => exact .refl
    | cons task tasks =>
      cases task with
      | elements rest =>
        rw [advance]
        split <;> exact .refl
      | _ => exact .refl
  | running tasks s =>
    cases tasks with
    | nil => exact .refl
    | cons task tasks =>
      cases task with
      | elements items =>
        cases items with
        | nil => exact .refl
        | cons item rest => exact step_beginElement policy _ s item
      | leave => exact .refl
      | count body current step limit =>
        rw [advance]
        split
        · rw [machine_openBody]
          exact .push _
        · exact .refl
      | counted body current step limit =>
        rw [advance]
        split <;> exact .refl
      | each body values =>
        cases values with
        | nil => exact .refl
        | cons v rest =>
          rw [advance, machine_openBody]
          exact .push v

end Steps

/-! ## Whole runs -/

/-- The configuration in which one operator is executed and nothing else; the first step is made. -/
def Configuration.startCall (policy : Policy) (op : Operator) (s : State) : Configuration :=
  beginElement policy (.operator op) [] s

/-- The machine comes to the outcome of `call`. -/
theorem reaches_call (policy : Policy) (op : Operator) (s : State) :
    Reaches policy (.startCall policy op s) (.finished (call policy op s)) := by
  have hinner : Tells policy (enterAt policy s) s.depth := tells_enter policy _ s.depth rfl
  exact (hinner.element (.operator op) [] s rfl).finish

end StackScript
