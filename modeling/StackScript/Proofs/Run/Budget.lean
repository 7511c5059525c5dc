import StackScript.Proofs.Run.Step
import StackScript.Session

/-!
# The limit on nesting only cuts off

Raising the limit on nesting changes nothing about a run that did not exceed it. Stated for sessions
(`limit_only_cuts_off`): two sessions in the same mode that agree on the machine and the recorded
faults, of which the second has room for at least as many further bodies, come to the same result
and to the same machine and recorded faults, unless the first is stopped by the limit.

It is a simulation of two runs that differ in nothing but the depth (`Follows`): wherever the first
is not cut off, the second does the same one level or several levels apart. A run that meets the
limit anywhere is stopped by it, because exceeding it is fatal in both modes; so as long as the
whole run is not cut off, no part of it is.
-/

namespace StackScript

/-- The same state at another depth of nesting. -/
def State.atDepth (s : State) (depth : Nat) : State :=
  { s with depth := depth }

/-- The machine does not tell at which depth it is. -/
theorem State.machine_atDepth (s : State) (depth : Nat) :
    (s.atDepth depth).machine = s.machine :=
  rfl

/-- Whether execution stopped because a body was to be opened beyond the limit on nesting. -/
def Outcome.IsCutOff (o : Outcome) : Prop :=
  ∃ limit, o.fault? = some (.tooDeep limit)

/-- A second way of running bodies does at a depth what the first one does wherever that is, unless
the first is cut off. -/
def Follows (depth : Nat) (first second : Entry) : Prop :=
  ∀ (body : List Value) (s : State), ¬ (first body s).IsCutOff →
    second body (s.atDepth depth) = (first body s).mapState (State.atDepth · depth)

namespace Follows

variable {mode : Mode} {depth : Nat} {first second : Entry}

/-- The outcome with which a body ends an element is cut off if that of the body is. -/
theorem raised {body : List Value} {s t : State} {f : Fault} (h : Follows depth first second)
    (hraised : first body s = .raised f t) (hcut : ¬ (Outcome.raised f t).IsCutOff) :
    second body (s.atDepth depth) = .raised f (t.atDepth depth) := by
  rw [h body s (by rwa [hraised]), hraised]
  rfl

/-- A body that is executed to its end is executed to its end. -/
theorem done {body : List Value} {s t : State} (h : Follows depth first second)
    (hdone : first body s = .done t) :
    second body (s.atDepth depth) = .done (t.atDepth depth) := by
  have hcut : ¬ (first body s).IsCutOff := by
    rintro ⟨limit, hlimit⟩
    rw [hdone] at hlimit
    cases hlimit
  rw [h body s hcut, hdone]
  rfl

theorem runCounting (h : Follows depth first second) (body : List Value) (step : Int)
    (count : Nat) (current : Int) (s : State)
    (hcut : ¬ (runCounting first body step count current s).IsCutOff) :
    runCounting second body step count current (s.atDepth depth) =
      (runCounting first body step count current s).mapState (State.atDepth · depth) := by
  induction count generalizing current s with
  | zero => rfl
  | succ count ih =>
    rw [StackScript.runCounting] at hcut ⊢
    rw [StackScript.runCounting]
    rcases hbody : first body (s.push (.number (.int (.ofInt current)))) with t | ⟨f, t⟩ <;>
      rw [hbody] at hcut
    · have hsecond := h.done hbody
      change second body ((s.atDepth depth).push _) = _ at hsecond
      rw [hsecond]
      exact ih _ t hcut
    · have hsecond := h.raised hbody hcut
      change second body ((s.atDepth depth).push _) = _ at hsecond
      rw [hsecond]
      rfl

theorem runEach (h : Follows depth first second) (body values : List Value) (s : State)
    (hcut : ¬ (runEach first body values s).IsCutOff) :
    runEach second body values (s.atDepth depth) =
      (runEach first body values s).mapState (State.atDepth · depth) := by
  induction values generalizing s with
  | nil => rfl
  | cons v rest ih =>
    rw [StackScript.runEach] at hcut ⊢
    rw [StackScript.runEach]
    rcases hbody : first body (s.push v) with t | ⟨f, t⟩ <;> rw [hbody] at hcut
    · have hsecond := h.done hbody
      change second body ((s.atDepth depth).push v) = _ at hsecond
      rw [hsecond]
      exact ih t hcut
    · have hsecond := h.raised hbody hcut
      change second body ((s.atDepth depth).push v) = _ at hsecond
      rw [hsecond]
      rfl

theorem runPasses (h : Follows depth first second) (passes : Passes) (s : State)
    (hcut : ¬ (runPasses first passes s).IsCutOff) :
    runPasses second passes (s.atDepth depth) =
      (runPasses first passes s).mapState (State.atDepth · depth) := by
  cases passes with
  | none => rfl
  | once body => exact h body s hcut
  | counting body start step limit =>
    rw [runPasses_counting] at hcut ⊢
    rw [runPasses_counting]
    exact h.runCounting body _ _ _ s hcut
  | each body values => exact h.runEach body values s hcut

/-- One element: whatever it looks at is the same at both depths. -/
theorem step (h : Follows depth first second) (item : Value) (s : State)
    (hcut : ¬ (step mode first item s).IsCutOff) :
    step mode second item (s.atDepth depth) =
      (step mode first item s).mapState (State.atDepth · depth) := by
  cases item with
  | operator op =>
    cases op with
    | primitive p =>
      rw [StackScript.step, StackScript.step, invoke_primitive, invoke_primitive,
        State.machine_atDepth]
      rcases p.apply mode s.machine with f | m <;> rfl
    | control c =>
      rw [StackScript.step, invoke_control] at hcut ⊢
      rw [StackScript.step, invoke_control, State.machine_atDepth]
      rcases hprepare : c.prepare s.machine with f | ⟨passes, m⟩
      · rfl
      · rw [hprepare] at hcut
        exact h.runPasses passes { s with machine := m } hcut
  | call n =>
    rw [StackScript.step, callName] at hcut ⊢
    rw [StackScript.step, callName, State.machine_atDepth]
    rcases hlookup : s.machine.scopes.lookup? s.machine.store n.text with _ | v
    · rfl
    rw [hlookup] at hcut
    dsimp only at hcut ⊢
    rcases hfalsy : mode.skipsFalsyBindings && v.isFalsy s.machine.store with _ | _
    · rw [hfalsy, if_neg Bool.false_ne_true] at hcut
      rw [if_neg Bool.false_ne_true, if_neg Bool.false_ne_true]
      cases v with
      | proc body => exact h body s hcut
      | _ => rfl
    · rfl
  | _ => rfl

/-- A list of elements: a step that is cut off ends all of it, so no step is. -/
theorem executeWith (h : Follows depth first second) (items : List Value) (s : State)
    (hcut : ¬ (executeWith mode first items s).IsCutOff) :
    executeWith mode second items (s.atDepth depth) =
      (executeWith mode first items s).mapState (State.atDepth · depth) := by
  induction items generalizing s with
  | nil => rfl
  | cons item rest ih =>
    rw [StackScript.executeWith] at hcut
    -- the limit is fatal in every mode, so it would have come out of the whole list
    have hstep : ¬ (StackScript.step mode first item s).IsCutOff := by
      rintro ⟨limit, hlimit⟩
      rcases houtcome : StackScript.step mode first item s with t | ⟨f, t⟩ <;>
        rw [houtcome] at hlimit hcut
      · cases hlimit
      · cases hlimit
        exact hcut ⟨limit, rfl⟩
    rw [StackScript.executeWith, StackScript.executeWith, h.step item s hstep]
    rcases houtcome : StackScript.step mode first item s with t | ⟨f, t⟩ <;> rw [houtcome] at hcut
    · exact ih t hcut
    · dsimp only [Outcome.mapState] at hcut ⊢
      rcases hfatal : mode.isFatal f with _ | _
      · rw [hfatal] at hcut
        exact ih (t.record f) hcut
      · rfl

end Follows

/-- Bodies: with at least as large a budget, at any depth, a body does the same. -/
theorem follows_enter {mode : Mode} {limit limit' budget budget' : Nat} (h : budget ≤ budget')
    (depth : Nat) :
    Follows depth (enter ⟨mode, limit⟩ budget) (enter ⟨mode, limit'⟩ budget') := by
  induction budget generalizing budget' depth with
  | zero =>
    -- without a budget the first is cut off at once
    intro body s hcut
    exact absurd ⟨limit, rfl⟩ hcut
  | succ budget ih =>
    obtain ⟨budget', rfl⟩ : ∃ k, budget' = k + 1 := ⟨budget' - 1, by omega⟩
    intro body s hcut
    have hinner := ih (Nat.le_of_succ_le_succ h) (depth + 1)
    rw [enter] at hcut ⊢
    rw [enter]
    change (executeWith mode (enter ⟨mode, limit'⟩ budget') body
      (s.deeper.atDepth (depth + 1))).mapState State.shallower = _
    rcases hrun : executeWith mode (enter ⟨mode, limit⟩ budget) body s.deeper with t | ⟨f, t⟩ <;>
      rw [hrun] at hcut
    · rw [hinner.executeWith body s.deeper (by rwa [hrun]), hrun]
      rfl
    · rw [hinner.executeWith body s.deeper (by rwa [hrun]), hrun]
      rfl

section Levels

variable {mode : Mode} {limit limit' depth : Nat} {s : State}

/-- A list of elements does the same with at least as much room. -/
theorem execute_atDepth (h : limit - s.depth ≤ limit' - depth) {items : List Value}
    (hcut : ¬ (execute ⟨mode, limit⟩ items s).IsCutOff) :
    execute ⟨mode, limit'⟩ items (s.atDepth depth) =
      (execute ⟨mode, limit⟩ items s).mapState (State.atDepth · depth) :=
  (follows_enter h depth).executeWith items s hcut

/-- An operator does the same with at least as much room. -/
theorem call_atDepth (h : limit - s.depth ≤ limit' - depth) {op : Operator}
    (hcut : ¬ (call ⟨mode, limit⟩ op s).IsCutOff) :
    call ⟨mode, limit'⟩ op (s.atDepth depth) =
      (call ⟨mode, limit⟩ op s).mapState (State.atDepth · depth) :=
  (follows_enter h depth).step (.operator op) s hcut

end Levels

/-! ## Sessions -/

namespace Session

/-- A second session that is like a first one but for the limit and the depth, and that has room for
at least as many further bodies. -/
structure HasRoomOf (second first : Session) : Prop where
  /-- both are held to the same mode -/
  mode : second.policy.mode = first.policy.mode
  /-- the stacks, the store and the sink are the same -/
  machine : second.state.machine = first.state.machine
  /-- the recorded faults are the same -/
  faults : second.state.faults = first.state.faults
  /-- as many further bodies may be opened, or more -/
  room : first.policy.maxDepth - first.state.depth ≤ second.policy.maxDepth - second.state.depth

/-- Two ends of a run at which everything is the same but the limit and the depth: the result, the
machine and the recorded faults. -/
structure EndsLike {α : Type} (second first : Option α × Session) : Prop where
  /-- the result is the same -/
  result : second.1 = first.1
  /-- the stacks, the store and the sink are the same -/
  machine : second.2.state.machine = first.2.state.machine
  /-- the recorded faults are the same -/
  faults : second.2.state.faults = first.2.state.faults

namespace HasRoomOf

variable {first second : Session}

/-- The state of the second session is that of the first, at another depth. -/
theorem state_eq (h : second.HasRoomOf first) :
    second.state = first.state.atDepth second.state.depth := by
  obtain ⟨policy, ⟨machine, faults, depth⟩⟩ := second
  obtain ⟨-, rfl, rfl, -⟩ := h
  rfl

/-- The policy of the second session is that of the first, with another limit. -/
theorem policy_eq (h : second.HasRoomOf first) :
    second.policy = ⟨first.policy.mode, second.policy.maxDepth⟩ := by
  obtain ⟨⟨mode, limit⟩, state⟩ := second
  obtain ⟨rfl, -⟩ := h
  rfl

/-- There is room still when the same is done to both stores. -/
theorem withStore {α : Type} (h : second.HasRoomOf first) (f : Store → α × Store) :
    (second.withStore f).1 = (first.withStore f).1 ∧
      (second.withStore f).2.HasRoomOf (first.withStore f).2 := by
  obtain ⟨policy, ⟨machine, faults, depth⟩⟩ := second
  obtain ⟨hmode, rfl, rfl, hroom⟩ := h
  exact ⟨rfl, hmode, rfl, rfl, hroom⟩

/-- Outcomes that differ in the depth only are ends of the same kind. -/
theorem endsLike_ofOutcome {o o' : Outcome} {depth : Nat}
    (ho : o' = o.mapState (State.atDepth · depth)) :
    EndsLike (second.ofOutcome o') (first.ofOutcome o) := by
  subst ho
  cases o <;> exact ⟨rfl, rfl, rfl⟩

theorem execute (h : second.HasRoomOf first) {items : List Value}
    (hcut : ∀ limit, (first.execute items).1 ≠ some (.tooDeep limit)) :
    EndsLike (second.execute items) (first.execute items) := by
  rw [Session.execute, Session.execute, h.policy_eq, h.state_eq]
  exact endsLike_ofOutcome (execute_atDepth h.room fun ⟨limit, hlimit⟩ => hcut limit hlimit)

theorem call (h : second.HasRoomOf first) {op : Operator}
    (hcut : ∀ limit, (first.call op).1 ≠ some (.tooDeep limit)) :
    EndsLike (second.call op) (first.call op) := by
  rw [Session.call, Session.call, h.policy_eq, h.state_eq]
  exact endsLike_ofOutcome (call_atDepth h.room fun ⟨limit, hlimit⟩ => hcut limit hlimit)

/-- A program is loaded into both stores and executed; one that cannot be read changes neither. -/
theorem run (h : second.HasRoomOf first) {source : String}
    (hcut : ∀ limit, (first.run source).1 ≠ some (.aborted (.tooDeep limit))) :
    EndsLike (second.run source) (first.run source) := by
  rw [Session.run] at hcut ⊢
  rw [Session.run]
  rcases hparse : Program.parse source with e | program
  · exact ⟨rfl, h.machine, h.faults⟩
  rw [hparse] at hcut
  obtain ⟨hitems, hloaded⟩ := h.withStore program.load
  dsimp only at hcut ⊢
  generalize (second.withStore program.load) = loaded' at hitems hloaded ⊢
  generalize (first.withStore program.load) = loaded at hitems hloaded hcut ⊢
  obtain ⟨items, first⟩ := loaded
  obtain ⟨items', second⟩ := loaded'
  obtain rfl : items' = items := hitems
  dsimp only at hloaded hcut ⊢
  rcases hrun : first.execute items' with ⟨f?, after⟩
  rcases hrun' : second.execute items' with ⟨f?', after'⟩
  rw [hrun] at hcut
  have hends : EndsLike (second.execute items') (first.execute items') :=
    hloaded.execute fun limit hlimit => hcut limit (by
      rw [hrun] at hlimit
      rw [show f? = _ from hlimit])
  rw [hrun, hrun'] at hends
  obtain ⟨rfl, hmachine, hfaults⟩ := hends
  cases f?' <;> exact ⟨rfl, hmachine, hfaults⟩

end HasRoomOf

/-- **The limit on nesting only cuts off.** Let two sessions be alike but for the limit and the
depth, the second with room for at least as many further bodies. Whatever is run in the first and is
not stopped by the limit, be it a list of elements, an operator or a program, comes to the same
result in the second, and leaves the same stacks, the same store, the same sink and the same
recorded faults. -/
theorem limit_only_cuts_off (first second : Session) (h : second.HasRoomOf first) :
    (∀ items, (∀ limit, (first.execute items).1 ≠ some (.tooDeep limit)) →
      EndsLike (second.execute items) (first.execute items)) ∧
    (∀ op, (∀ limit, (first.call op).1 ≠ some (.tooDeep limit)) →
      EndsLike (second.call op) (first.call op)) ∧
    (∀ source, (∀ limit, (first.run source).1 ≠ some (.aborted (.tooDeep limit))) →
      EndsLike (second.run source) (first.run source)) :=
  ⟨fun _ => h.execute, fun _ => h.call, fun _ => h.run⟩

/-- Two conditionals within each other fill the room that a limit of two leaves at depth zero. They
end in the same way where a limit of five leaves the same room at depth three. -/
theorem limit_only_cuts_off_of_conditionals :
    let inner : List Value := [.number (.int 7)]
    let outer : List Value := [.bool true, .proc inner, .operator (.control .ifTrue)]
    let items : List Value := [.bool true, .proc outer, .operator (.control .ifTrue)]
    let first : Session := ⟨⟨.hardened, 2⟩, .fresh .silent⟩
    let second : Session := ⟨⟨.hardened, 5⟩, { State.fresh .silent with depth := 3 }⟩
    second.HasRoomOf first ∧ (first.execute items).1 = none ∧
      (first.execute items).2.operands = [.number (.int 7)] ∧
      EndsLike (second.execute items) (first.execute items) := by
  intro inner outer items first second
  have hroom : second.HasRoomOf first := ⟨rfl, rfl, rfl, by decide⟩
  have hresult : (first.execute items).1 = none := rfl
  refine ⟨hroom, hresult, rfl, (limit_only_cuts_off first second hroom).1 items ?_⟩
  intro limit hlimit
  rw [hresult] at hlimit
  cases hlimit

end Session

end StackScript
