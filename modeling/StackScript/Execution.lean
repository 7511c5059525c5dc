import StackScript.Perform

/-!
# Running bodies

A body is a list of values; running it executes them one after the other. An element that goes wrong
raises a fault. Unless the mode takes the fault for fatal it is recorded, and the run goes on with
the next element; a fatal fault ends the run, and every body around the one it came from ends with
it.

Bodies are entered from within bodies: by calling a procedure, and by control operators. The limit
on nesting is what makes every run end, and the recursion follows it. `enter` goes by the number of
further bodies that may be opened. Everything between one body and the next is written without
recursion of its own through the nesting: it is passed the function that enters a body one level
further in. With that function given, `executeWith` goes along the list of elements, and `runWithin`
and `runEach` go along the passes of a loop.

The depth of nesting is part of the state, so that it can be said of it that every body leaves it as
it was found. The budget handed to `enter` is what the limit leaves at that depth (`enterAt`).
-/

namespace StackScript

/-- A machine together with the bookkeeping of a run. -/
structure State where
  /-- what operators work on -/
  machine : Machine
  /-- the faults recorded so far, oldest first -/
  faults : Array Fault
  /-- how many bodies are open within each other -/
  depth : Nat

namespace State

/-- The state in which nothing has been run. -/
def fresh (sink : Sink) : State :=
  ⟨.fresh sink, #[], 0⟩

/-- Pushes a value on the operand stack. -/
def push (s : State) (v : Value) : State :=
  { s with machine := s.machine.push v }

/-- Records a fault. -/
def record (s : State) (f : Fault) : State :=
  { s with faults := s.faults.push f }

/-- The state one body further in. -/
def deeper (s : State) : State :=
  { s with depth := s.depth + 1 }

/-- The state one body further out. -/
def shallower (s : State) : State :=
  { s with depth := s.depth - 1 }

end State

/-- How an execution ends: at its end, or at a fault. Either way there is a state that it leaves
behind. -/
inductive Outcome where
  /-- everything was executed -/
  | done (after : State)
  /-- execution stopped at a fault -/
  | raised (fault : Fault) (after : State)

namespace Outcome

/-- The state that is left behind. -/
def state : Outcome → State
  | .done s => s
  | .raised _ s => s

/-- The fault at which execution stopped. -/
def fault? : Outcome → Option Fault
  | .done _ => none
  | .raised f _ => some f

/-- Changes the state that is left behind. -/
def mapState (f : State → State) : Outcome → Outcome
  | .done s => .done (f s)
  | .raised fault s => .raised fault (f s)

end Outcome

/-- A way to run a body. -/
abbrev Entry : Type :=
  List Value → State → Outcome

/-! ## One element -/

/-- Whether a counting loop makes a pass for an integer: whether it lies on the near side of the
limit, in the direction of the step. -/
def isWithin (current step limit : Int64) : Bool :=
  (0 < step.toInt && current.toInt ≤ limit.toInt) || (step.toInt < 0 && limit.toInt ≤ current.toInt)

/-- How far a counting loop still is from having passed its limit. -/
def distancePast (current step limit : Int64) : Nat :=
  if 0 < step.toInt then (limit.toInt - current.toInt + 1).toNat
  else (current.toInt - limit.toInt + 1).toNat

/-- Every pass brings a counting loop nearer to its end. -/
theorem distancePast_lt {current step limit next : Int64} (h : isWithin current step limit = true)
    (hnext : Number.int64? (current.toInt + step.toInt) = some next) :
    distancePast next step limit < distancePast current step limit := by
  have hsum := Number.toInt_of_int64? hnext
  simp only [isWithin, Bool.or_eq_true, Bool.and_eq_true, decide_eq_true_eq] at h
  simp only [distancePast]
  split <;> omega

/-- Runs a body for `current` and then for every further integer, a step apart, until one is beyond
the limit. The integer is pushed before each run. If the next one does not fit in 64 bits, there is
no other. -/
@[semireducible]
def runWithin (enter : Entry) (body : List Value) (step limit current : Int64) (s : State) :
    Outcome :=
  if _ : isWithin current step limit then
    match enter body (s.push (.number (.int current))) with
    | .done s =>
      match _ : Number.int64? (current.toInt + step.toInt) with
      | some next => runWithin enter body step limit next s
      | none => .done s
    | .raised f s => .raised f s
  else .done s
termination_by distancePast current step limit
decreasing_by exact distancePast_lt ‹_› ‹_›

/-- Runs a body once for each of the values, which is pushed before it. -/
def runEach (enter : Entry) (body : List Value) : List Value → State → Outcome
  | [], s => .done s
  | v :: rest, s =>
    match enter body (s.push v) with
    | .done s => runEach enter body rest s
    | .raised f s => .raised f s

/-- Runs the passes that a control operator asks for. -/
def runPasses (enter : Entry) (passes : Passes) (s : State) : Outcome :=
  match passes with
  | .none => .done s
  | .once body => enter body s
  | .counting body start step limit => runWithin enter body step limit start s
  | .each body values => runEach enter body values s

/-- Executes an operator. -/
def invoke (mode : Mode) (enter : Entry) (op : Operator) (s : State) : Outcome :=
  match op with
  | .primitive p =>
    match p.perform mode s.machine with
    | (.ok _, m) => .done { s with machine := m }
    | (.error f, m) => .raised f { s with machine := m }
  | .control c =>
    match c.perform s.machine with
    | (.ok passes, m) => runPasses enter passes { s with machine := m }
    | (.error f, m) => .raised f { s with machine := m }

/-- Executes a bare name: a procedure bound to it is run, and any other value bound to it is pushed.
Depending on the mode a falsy value counts as no value at all. -/
def callName (mode : Mode) (enter : Entry) (name : Name) (s : State) : Outcome :=
  let store := s.machine.store
  match s.machine.scopes.lookup? store name.text with
  | none => .raised (.notFound name.text) s
  | some v =>
    if mode.skipsFalsyBindings && v.isFalsy store then
      .raised (.falsyBinding name.text (v.text store)) s
    else
      match v with
      | .proc body => enter body s
      | data => .done (s.push data)

/-- Executes one element of a body: operators act, bare names are called, and data is pushed. -/
def step (mode : Mode) (enter : Entry) (item : Value) (s : State) : Outcome :=
  match item with
  | .operator op => invoke mode enter op s
  | .call name => callName mode enter name s
  | .unknown name => .raised (.unknownSymbol name.text) s
  | data => .done (s.push data)

/-! ## Whole bodies -/

/-- Executes the elements of a body in order. A fault that is not fatal is recorded and passed
over. -/
def executeWith (mode : Mode) (enter : Entry) : List Value → State → Outcome
  | [], s => .done s
  | item :: rest, s =>
    match step mode enter item s with
    | .done s => executeWith mode enter rest s
    | .raised f s =>
      if mode.isFatal f then .raised f s else executeWith mode enter rest (s.record f)

/-- Enters a body, when `budget` further bodies may be opened within each other, this one
included. -/
def enter (policy : Policy) : (budget : Nat) → Entry
  | 0, _, s => .raised (.tooDeep policy.maxDepth) s
  | budget + 1, body, s =>
    (executeWith policy.mode (enter policy budget) body s.deeper).mapState State.shallower

/-- Enters a body at the depth that the state is at. -/
def enterAt (policy : Policy) (s : State) : Entry :=
  enter policy (policy.maxDepth - s.depth)

/-- Executes a list of elements in a state. -/
def execute (policy : Policy) (items : List Value) (s : State) : Outcome :=
  executeWith policy.mode (enterAt policy s) items s

/-- Executes one operator in a state. -/
def call (policy : Policy) (op : Operator) (s : State) : Outcome :=
  invoke policy.mode (enterAt policy s) op s

end StackScript
