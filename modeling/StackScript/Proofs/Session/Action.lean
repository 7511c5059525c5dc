import StackScript.Proofs.Run.Steps
import StackScript.Session

/-!
# What a host can do

A host uses a session by doing one thing after another with it, and doing several things within a
scope is itself one of these things. So what a host does is a list of trees (`Session.Action`), and
a use of a session can be given as data and reasoned about by induction.

`Session.Visits` tells the sessions that come up while a host does all this: those before and after
each action, also within scopes, and those in the midst of a run, after any number of single steps
of the machine of `StackScript.Proofs.Run.Stepping`.
-/

namespace StackScript

namespace Session

/-- Something that a host can do with a session. -/
inductive Action where
  /-- reads and runs a program -/
  | run (source : String)
  /-- executes a list of elements -/
  | execute (items : List Value)
  /-- invokes one operator -/
  | call (op : Operator)
  /-- pushes an operand -/
  | push (v : Value)
  /-- takes the top operand -/
  | pop
  /-- binds a name -/
  | define (name : Name) (v : Value)
  /-- looks up a name -/
  | lookup (bare : String)
  /-- takes the recorded faults -/
  | takeFaults
  /-- forgets what was printed into a buffer -/
  | clearOutput
  /-- takes what waits to be printed on a console -/
  | flush
  /-- clears both stacks and the recorded faults -/
  | reset
  /-- builds values in the store -/
  | arrange (f : Store → Store)
  /-- does something within a scope of its own -/
  | scope (frame : DictRef) (inner : List Action)

mutual

/-- The session after an action. -/
def perform (s : Session) : Action → Session
  | .run source => (s.run source).2
  | .execute items => (s.execute items).2
  | .call op => (s.call op).2
  | .push v => s.push v
  | .pop => s.pop.2
  | .define name v => (s.define name v).2
  | .lookup _ => s
  | .takeFaults => s.takeFaults.2
  | .clearOutput => s.clearOutput
  | .flush => s.flush.2
  | .reset => s.reset
  | .arrange f => (s.withStore fun store => ((), f store)).2
  | .scope frame inner => (s.withScope frame fun t => ((), performAll t inner)).2

/-- The session after several actions. -/
def performAll (s : Session) : List Action → Session
  | [] => s
  | a :: rest => performAll (perform s a) rest

end

/-- Where the machine starts, if an action makes it run. -/
def Action.start? (s : Session) : Action → Option Configuration
  | .run source =>
    match Program.parse source with
    | .ok program =>
      some (.start (s.withStore program.load).1 (s.withStore program.load).2.state)
    | .error _ => none
  | .execute items => some (.start items s.state)
  | .call op => some (.startCall s.policy op s.state)
  | _ => none

/-- The sessions that come up while a host does one thing after another. -/
inductive Visits : Session → List Action → Session → Prop where
  /-- the one before the next action, or after the last -/
  | here {s : Session} {actions : List Action} : Visits s actions s
  /-- one in the midst of a run -/
  | during {s : Session} {a : Action} {rest : List Action} {c : Configuration}
    (h : a.start? s = some c) (n : Nat) :
    Visits s (a :: rest) ⟨s.policy, ((advance s.policy)^[n] c).state⟩
  /-- one within a scope -/
  | inside {s t : Session} {frame : DictRef} {inner rest : List Action}
    (h : Visits (s.openScope frame).2 inner t) : Visits s (.scope frame inner :: rest) t
  /-- a later one -/
  | after {s t : Session} {a : Action} {rest : List Action} (h : Visits (s.perform a) rest t) :
    Visits s (a :: rest) t

variable {s : Session} {a : Action} {c : Configuration}

/-! ## Primitives -/

/-- A primitive that goes ahead changes the machine of the session. -/
theorem call_primitive_of_ok {p : Primitive} {m : Machine}
    (h : p.apply s.policy.mode s.state.machine = .ok m) :
    s.call (.primitive p) = (none, s.mapMachine fun _ => m) := by
  rw [call, StackScript.call, invoke_primitive, h]
  rfl

/-- A primitive that refuses its operands changes nothing. -/
theorem call_primitive_of_error {p : Primitive} {f : Fault}
    (h : p.apply s.policy.mode s.state.machine = .error f) :
    s.call (.primitive p) = (some f, s) := by
  rw [call, StackScript.call, invoke_primitive, h]
  rfl

/-- What a primitive answers to a call is the fault that it refuses with. -/
theorem call_primitive_eq_some_iff {p : Primitive} {f : Fault} {t : Session} :
    s.call (.primitive p) = (some f, t) ↔
      p.apply s.policy.mode s.state.machine = .error f ∧ t = s := by
  rcases happly : p.apply s.policy.mode s.state.machine with g | m
  · rw [call_primitive_of_error happly, Prod.mk.injEq, Option.some.injEq, Except.error.injEq,
      eq_comm (a := s)]
  · rw [call_primitive_of_ok happly]
    exact iff_of_false (fun h => by cases h) fun h => by cases h.1

/-- A call that a primitive goes ahead with leaves the machine that it comes to. -/
theorem exists_of_call_primitive {p : Primitive} {t : Session}
    (h : s.call (.primitive p) = (none, t)) :
    ∃ m, p.apply s.policy.mode s.state.machine = .ok m ∧ t = s.mapMachine fun _ => m := by
  rcases happly : p.apply s.policy.mode s.state.machine with g | m
  · rw [call_primitive_of_error happly] at h
    cases h
  · rw [call_primitive_of_ok happly] at h
    cases h
    exact ⟨m, rfl, rfl⟩

/-! ## Visited sessions -/

/-- The last session is visited. -/
theorem visits_performAll (s : Session) (actions : List Action) :
    Visits s actions (s.performAll actions) := by
  induction actions generalizing s with
  | nil => exact .here
  | cons a rest ih => exact .after (ih (s.perform a))

/-! ## Runs -/

/-- The machine that an action leaves behind is one that its run comes to. -/
theorem exists_machine_perform (h : a.start? s = some c) :
    ∃ n, ((advance s.policy)^[n] c).state.machine = (s.perform a).state.machine := by
  cases a with
  | execute items =>
    obtain rfl := Option.some.inj h
    obtain ⟨n, hn⟩ := reaches_execute s.policy items s.state
    exact ⟨n, by rw [hn]; rfl⟩
  | call op =>
    obtain rfl := Option.some.inj h
    obtain ⟨n, hn⟩ := reaches_call s.policy op s.state
    exact ⟨n, by rw [hn]; rfl⟩
  | run source =>
    rw [Action.start?] at h
    rcases hparse : Program.parse source with e | program <;> rw [hparse] at h
    · cases h
    · obtain rfl := Option.some.inj h
      obtain ⟨n, hn⟩ := reaches_execute s.policy (s.withStore program.load).1
        (s.withStore program.load).2.state
      refine ⟨n, ?_⟩
      rw [perform, run_of_parse hparse, hn]
      rcases StackScript.execute s.policy _ _ with t | ⟨f, t⟩ <;> rfl
  | _ => cases h

/-- A run whose program cannot be read changes nothing. -/
theorem perform_run_of_start? {source : String} (h : (Action.run source).start? s = none) :
    s.perform (.run source) = s := by
  rw [Action.start?] at h
  rcases hparse : Program.parse source with e | program <;> rw [hparse] at h
  · rw [perform, run_of_parse_error hparse]
  · cases h

/-- A property of machines that single steps keep, and that loading a program keeps. -/
structure Kept (P : Machine → Prop) : Prop where
  /-- a single step of a run keeps it -/
  step : ∀ {m after : Machine}, m.Step after → P m → P after
  /-- loading a program keeps it -/
  load : ∀ {m : Machine} (program : Program), P m → P { m with store := (program.load m.store).2 }

namespace Kept

variable {P : Machine → Prop}

/-- What is kept holds where a run starts. -/
theorem start (hP : Kept P) (h : a.start? s = some c) (hs : P s.state.machine) :
    P c.state.machine := by
  cases a with
  | execute items =>
    obtain rfl := Option.some.inj h
    exact hs
  | call op =>
    obtain rfl := Option.some.inj h
    exact hP.step (step_beginElement s.policy [] s.state (.operator op)) hs
  | run source =>
    rw [Action.start?] at h
    rcases hparse : Program.parse source with e | program <;> rw [hparse] at h
    · cases h
    · obtain rfl := Option.some.inj h
      exact hP.load program hs
  | _ => cases h

/-- What is kept holds in the midst of a run. -/
theorem during (hP : Kept P) (h : a.start? s = some c) (hs : P s.state.machine) (n : Nat) :
    P ((advance s.policy)^[n] c).state.machine :=
  Function.Iterate.rec (fun c : Configuration => P c.state.machine) (hP.start h hs)
    (fun c => hP.step (step_advance s.policy c)) n

/-- What is kept holds after a run. -/
theorem perform (hP : Kept P) (h : a.start? s = some c) (hs : P s.state.machine) :
    P (s.perform a).state.machine := by
  obtain ⟨n, hn⟩ := exists_machine_perform h
  rw [← hn]
  exact hP.during h hs n

end Kept

end Session

end StackScript
