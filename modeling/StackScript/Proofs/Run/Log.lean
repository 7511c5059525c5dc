import StackScript.Proofs.Run.Step

/-!
# The recorded faults

A run records recoverable faults and takes none back: the faults recorded before it are the first of
those recorded after it (`runRelation_recoversTo`). What was recorded over a whole run is what was
recorded over its parts, one after the other (`State.newFaults_append`), so a fault that is recorded
anywhere in a run is still there at its end.

The parts of a run are told apart by `executeWith_cons`: an element is executed and *settled*, which
means that its fault is recorded if the mode recovers from it, and then the rest follows.
-/

namespace StackScript

namespace State

/-- The faults that are recorded in a state and were not yet recorded in an earlier one. -/
def newFaults (before after : State) : List Fault :=
  after.faults.toList.drop before.faults.size

/-- The faults recorded in one state are the first of those recorded in another. -/
def Extends (before after : State) : Prop :=
  before.faults.toList <+: after.faults.toList

variable {s t u : State}

/-- Recording a fault adds it at the end. -/
theorem extends_record (s : State) (f : Fault) : s.Extends (s.record f) := by
  rw [Extends, record, Array.toList_push]
  exact List.prefix_append _ _

/-- What was recorded over two stretches is what was recorded over the first and then over the
second. -/
theorem newFaults_append (hst : s.Extends t) (htu : t.Extends u) :
    s.newFaults u = s.newFaults t ++ t.newFaults u := by
  obtain ⟨first, hfirst⟩ := hst
  obtain ⟨second, hsecond⟩ := htu
  simp only [newFaults, ← Array.length_toList, ← hsecond, ← hfirst, List.append_assoc,
    List.drop_left]
  rw [← List.append_assoc, List.drop_left]

/-- A fault that has just been recorded is the only new one. -/
theorem newFaults_record (s : State) (f : Fault) : s.newFaults (s.record f) = [f] := by
  rw [newFaults, record, Array.toList_push, ← Array.length_toList, List.drop_left]

/-- It is among those that are new since an earlier state. -/
theorem mem_newFaults_record (h : s.Extends t) (f : Fault) : f ∈ s.newFaults (t.record f) := by
  rw [newFaults_append h (extends_record t f), newFaults_record]
  exact List.mem_append_right _ (List.mem_singleton_self f)

/-- Whether one state comes after another with nothing but recoverable faults recorded in
between. -/
def RecoversTo (mode : Mode) (before after : State) : Prop :=
  before.Extends after ∧ ∀ f ∈ before.newFaults after, mode.isFatal f = false

/-- A state in which the same faults are recorded. -/
theorem recoversTo_of_faults {mode : Mode} (h : t.faults = s.faults) : s.RecoversTo mode t := by
  refine ⟨?_, ?_⟩
  · simp only [Extends, h, List.prefix_rfl]
  · have hnone : s.newFaults t = [] := by
      simp only [newFaults, h, ← Array.length_toList, List.drop_length]
    simp [hnone]

end State

/-- **Runs record recoverable faults only**, after those that are recorded already. -/
theorem runRelation_recoversTo (mode : Mode) : RunRelation mode (State.RecoversTo mode) where
  refl _ := State.recoversTo_of_faults rfl
  trans := by
    intro s t u hst htu
    refine ⟨hst.1.trans htu.1, ?_⟩
    intro f hf
    rw [State.newFaults_append hst.1 htu.1] at hf
    rcases List.mem_append.mp hf with hf | hf
    · exact hst.2 f hf
    · exact htu.2 f hf
  primitive _ := State.recoversTo_of_faults rfl
  control _ := State.recoversTo_of_faults rfl
  push _ _ := State.recoversTo_of_faults rfl
  record := by
    intro s f hf
    refine ⟨s.extends_record f, ?_⟩
    intro g hg
    rw [s.newFaults_record, List.mem_singleton] at hg
    rw [hg, hf]
  nested h := h

/-! ## One part of a run after another -/

namespace Outcome

/-- Goes on after an outcome, unless it is a fault. -/
def andThen (o : Outcome) (next : State → Outcome) : Outcome :=
  match o with
  | .done s => next s
  | .raised f s => .raised f s

/-- Records the fault of an outcome, if the mode recovers from it. -/
def settle (mode : Mode) : Outcome → Outcome
  | .done s => .done s
  | .raised f s => if mode.isFatal f then .raised f s else .done (s.record f)

/-- What goes on after an outcome adds to what is recorded in it. -/
theorem extends_andThen {o : Outcome} {next : State → Outcome}
    (h : ∀ t : State, t.Extends (next t).state) : o.state.Extends (o.andThen next).state := by
  cases o with
  | done t => exact h t
  | raised f t => exact List.prefix_rfl

/-- Settling an outcome adds to what is recorded in it. -/
theorem extends_settle (mode : Mode) (o : Outcome) :
    o.state.Extends (o.settle mode).state := by
  cases o with
  | done t => exact List.prefix_rfl
  | raised f t =>
    rw [settle]
    split
    · exact List.prefix_rfl
    · exact t.extends_record f

end Outcome

/-- A body is its first element, settled, and then the others. -/
theorem executeWith_cons (mode : Mode) (inner : Entry) (item : Value) (rest : List Value)
    (s : State) :
    executeWith mode inner (item :: rest) s =
      ((step mode inner item s).settle mode).andThen (executeWith mode inner rest) := by
  rw [executeWith]
  rcases step mode inner item s with t | ⟨f, t⟩
  · rfl
  · dsimp only [Outcome.settle]
    split <;> rfl

/-- A pass of a counting loop, and then the others. -/
theorem runCounting_succ (inner : Entry) (body : List Value) (step : Int) (count : Nat)
    (current : Int) (s : State) :
    runCounting inner body step (count + 1) current s =
      (inner body (s.push (.number (.int (.ofInt current))))).andThen
        (runCounting inner body step count (current + step)) := by
  rw [runCounting]
  rcases inner body (s.push (.number (.int (.ofInt current)))) with t | ⟨f, t⟩ <;> rfl

/-- A pass of a loop over values, and then the others. -/
theorem runEach_cons (inner : Entry) (body : List Value) (v : Value) (rest : List Value)
    (s : State) :
    runEach inner body (v :: rest) s =
      (inner body (s.push v)).andThen (runEach inner body rest) := by
  rw [runEach]
  rcases inner body (s.push v) with t | ⟨f, t⟩ <;> rfl

end StackScript
