import StackScript.Execution
import StackScript.Program.Parse
import StackScript.Store.Load

/-!
# Sessions

A session is what a host holds: a policy, which stays the same, and the state that everything run in
the session shares. Besides running programs a host can execute elements and operators one by one,
push and pop operands, define and look up names, and open a scope of its own around any of this
(`Session.withScope`).

A scope opened by the host is closed by the host: while it is open its frame and the frames below it
lie under the floor, and closing it cuts the frames back to where they were, whatever the program
left behind.
-/

namespace StackScript

/-- Why a program was not run to its end. -/
inductive Failure where
  /-- it was not run at all -/
  | parse (error : ParseError)
  /-- it was stopped by a fatal fault -/
  | aborted (fault : Fault)
  deriving DecidableEq, Repr

/-- The wording of a failure. -/
def Failure.message : Failure → String
  | .parse e => e.message
  | .aborted f => "run aborted: " ++ f.message

/-- A policy and the state of everything that was run under it. -/
structure Session where
  /-- what the session is held to -/
  policy : Policy
  /-- what it has come to -/
  state : State

namespace Session

/-- A session in which nothing has happened yet. -/
def fresh (policy : Policy) (sink : Sink) : Session :=
  ⟨policy, .fresh sink⟩

/-! ## Views -/

/-- The operand stack. -/
def operands (s : Session) : Operands :=
  s.state.machine.operands

/-- The frames in which names are looked up. -/
def scopes (s : Session) : Scopes :=
  s.state.machine.scopes

/-- Every array and dictionary there is. -/
def store (s : Session) : Store :=
  s.state.machine.store

/-- Where printed lines go. -/
def sink (s : Session) : Sink :=
  s.state.machine.sink

/-- Changes the machine of the session. -/
def mapMachine (s : Session) (f : Machine → Machine) : Session :=
  { s with state := { s.state with machine := f s.state.machine } }

/-- Does something with the store of the session, such as allocating values that are to be passed
to it. -/
def withStore {α : Type} (s : Session) (f : Store → α × Store) : α × Session :=
  let (a, store) := f s.store
  (a, s.mapMachine fun m => { m with store := store })

/-! ## Running -/

/-- The session after an execution, and the fault that stopped it. -/
def ofOutcome (s : Session) (o : Outcome) : Option Fault × Session :=
  (o.fault?, { s with state := o.state })

/-- Executes a list of elements, and tells the fatal fault that stopped it, if one did. -/
def execute (s : Session) (items : List Value) : Option Fault × Session :=
  s.ofOutcome (StackScript.execute s.policy items s.state)

/-- Invokes one operator. A fault it answers with is not recorded, fatal or not. -/
def call (s : Session) (op : Operator) : Option Fault × Session :=
  s.ofOutcome (StackScript.call s.policy op s.state)

/-- Reads and runs a program. A program that cannot be read changes nothing; one that is stopped
leaves behind what it did up to then. -/
def run (s : Session) (source : String) : Option Failure × Session :=
  match Program.parse source with
  | .error e => (some (.parse e), s)
  | .ok program =>
    let (items, s) := s.withStore program.load
    match s.execute items with
    | (none, s) => (none, s)
    | (some f, s) => (some (.aborted f), { s with state := { s.state with depth := 0 } })

/-- A program that can be read is loaded into the store and executed. If it is stopped, no body is
left open. -/
theorem run_of_parse {s : Session} {source : String} {program : Program}
    (h : Program.parse source = .ok program) :
    s.run source =
      match StackScript.execute s.policy (s.withStore program.load).1
        (s.withStore program.load).2.state with
      | .done t => (none, ⟨s.policy, t⟩)
      | .raised f t => (some (.aborted f), ⟨s.policy, { t with depth := 0 }⟩) := by
  rw [run, h]
  dsimp only [execute, ofOutcome, withStore, mapMachine]
  rcases StackScript.execute s.policy (program.load s.store).1 _ with t | ⟨f, t⟩ <;> rfl

/-- A program that cannot be read changes nothing. -/
theorem run_of_parse_error {s : Session} {source : String} {e : ParseError}
    (h : Program.parse source = .error e) : s.run source = (some (.parse e), s) := by
  rw [run, h]

/-! ## Stacks, names and faults -/

/-- Pushes an operand. -/
def push (s : Session) (v : Value) : Session :=
  { s with state := s.state.push v }

/-- Takes the top operand, or tells why it cannot. -/
def pop (s : Session) : Except Fault Value × Session :=
  match s.operands with
  | v :: rest => (.ok v, s.mapMachine fun m => { m with operands := rest })
  | [] => (.error (.tooFewOperands (.primitive .pop) 1 0), s)

/-- Binds a name literal in the innermost scope. -/
def define (s : Session) (name : Name) (v : Value) : Option Fault × Session :=
  match s.scopes.define s.store name v with
  | .ok (scopes, store) => (none, s.mapMachine fun m => { m with scopes := scopes, store := store })
  | .error f => (some f, s)

/-- What a bare name is bound to, or the fault that it is not bound. -/
def lookup (s : Session) (bare : String) : Except Fault Value :=
  match s.scopes.lookup? s.store bare with
  | some v => .ok v
  | none => .error (.notFound bare)

/-- Takes the recorded faults out of the session. -/
def takeFaults (s : Session) : Array Fault × Session :=
  (s.state.faults, { s with state := { s.state with faults := #[] } })

/-- Clears both stacks and the recorded faults. What was printed stays, and so does the floor. -/
def reset (s : Session) : Session :=
  let cleared := s.mapMachine fun m => { m with operands := [], scopes := m.scopes.clear }
  { cleared with state := { cleared.state with faults := #[], depth := 0 } }

/-- Forgets what has been printed into a buffer. -/
def clearOutput (s : Session) : Session :=
  s.mapMachine fun m => { m with sink := m.sink.clear }

/-- Hands over what waits to be printed on a console. -/
def flush (s : Session) : String × Session :=
  let (pending, sink) := s.sink.flush
  (pending, s.mapMachine fun m => { m with sink := sink })

/-! ## Scopes of the host -/

/-- What has to be remembered while a scope of the host is open. -/
structure Guard where
  /-- how many frames there were before -/
  depth : Nat
  /-- where the floor was before -/
  floor : Nat
  deriving DecidableEq, Repr

/-- Opens a scope: makes a dictionary the innermost frame and puts it under the floor. -/
def openScope (s : Session) (frame : DictRef) : Guard × Session :=
  (⟨s.scopes.depth, s.scopes.floor⟩,
    s.mapMachine fun m => { m with scopes := (m.scopes.push frame).raiseFloor })

/-- Closes a scope: cuts the frames back to as many as there were before and returns the floor. -/
def closeScope (s : Session) (guard : Guard) : Session :=
  s.mapMachine fun m =>
    { m with scopes := { m.scopes.truncate guard.depth with floor := guard.floor } }

/-- Does something inside a scope of its own. -/
def withScope {α : Type} (s : Session) (frame : DictRef) (act : Session → α × Session) :
    α × Session :=
  let (guard, inner) := s.openScope frame
  let (a, after) := act inner
  (a, after.closeScope guard)

end Session

end StackScript
