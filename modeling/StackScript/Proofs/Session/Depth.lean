import StackScript.Proofs.Operator.Refusal
import StackScript.Proofs.Session.Action

/-!
# The depth of nesting

The state counts the open bodies and does not say which ones they are. Leaving one where none is
open would leave the count at zero, so a mistake in the counting would not show in the state alone.
The tasks of the machine that runs programs in single steps tell the open bodies apart: each of them
has a task of its own that leaves it. At every point of a run the depth is what it was at the start
and as many more as there are such tasks (`Configuration.Balanced`). No task of this kind is left at
the end, however the run ends.

The depth does not go beyond the limit either, and whoever is told of the limit is told the right
one. What a host does with a session therefore leaves it all the bodies that the limit allows
(`depth_is_balanced`).
-/

namespace StackScript

/-! ## Open bodies -/

/-- How many bodies the tasks are going to leave. -/
def Task.openBodies : List Task → Nat
  | [] => 0
  | .leave :: tasks => openBodies tasks + 1
  | _ :: tasks => openBodies tasks

namespace Configuration

/-- How many of the bodies that the run has entered are open. -/
def openBodies : Configuration → Nat
  | .running tasks _ | .raising _ tasks _ => Task.openBodies tasks
  | .finished _ => 0

/-- The fault that is on its way outwards, or that has ended the run. -/
def fault? : Configuration → Option Fault
  | .running _ _ => none
  | .raising f _ _ => some f
  | .finished outcome => outcome.fault?

/-- The depth of nesting is right: besides the bodies that were open at the start, those that the
run has entered and not left. -/
structure Balanced (policy : Policy) (base : Nat) (c : Configuration) : Prop where
  /-- all open bodies are counted -/
  depth_eq : c.state.depth = base + c.openBodies
  /-- there are no more of them than there may be -/
  depth_le : c.state.depth ≤ policy.maxDepth
  /-- a fault that tells the limit tells the right one -/
  limit_eq : ∀ limit, c.fault? = some (.tooDeep limit) → limit = policy.maxDepth

end Configuration

open StackScript.Configuration (Balanced)

/-- The depth of the state is right if the tasks are still to be done. -/
structure State.IsAtDepth (policy : Policy) (base : Nat) (tasks : List Task) (s : State) :
    Prop where
  /-- all open bodies are counted -/
  depth_eq : s.depth = base + Task.openBodies tasks
  /-- there are no more of them than there may be -/
  depth_le : s.depth ≤ policy.maxDepth

namespace State.IsAtDepth

variable {policy : Policy} {base : Nat} {tasks later : List Task} {s t : State} {f : Fault}

/-- Nothing but the depth and the open bodies matters. -/
theorem congr (h : s.IsAtDepth policy base tasks) (hdepth : t.depth = s.depth)
    (hopen : Task.openBodies later = Task.openBodies tasks) : t.IsAtDepth policy base later where
  depth_eq := by rw [hdepth, hopen, h.depth_eq]
  depth_le := by rw [hdepth]; exact h.depth_le

theorem running (h : s.IsAtDepth policy base tasks) : Balanced policy base (.running tasks s) where
  depth_eq := h.depth_eq
  depth_le := h.depth_le
  limit_eq _ hf := by cases hf

theorem raising (h : s.IsAtDepth policy base tasks)
    (hf : ∀ limit, f = .tooDeep limit → limit = policy.maxDepth) :
    Balanced policy base (.raising f tasks s) where
  depth_eq := h.depth_eq
  depth_le := h.depth_le
  limit_eq limit hfault := hf limit (Option.some.inj hfault)

/-- Where a body is left one is open, so that the depth goes down. -/
theorem leave (h : s.IsAtDepth policy base (.leave :: tasks)) :
    s.shallower.IsAtDepth policy base tasks where
  depth_eq := by
    change s.depth - 1 = _
    rw [h.depth_eq, Task.openBodies, ← Nat.add_assoc, Nat.add_sub_cancel]
  depth_le := Nat.le_trans (Nat.sub_le ..) h.depth_le

/-- A body is opened below the limit only, and refused with it. -/
theorem openBody (h : s.IsAtDepth policy base tasks) (body : List Value) :
    Balanced policy base (openBody policy body tasks s) := by
  rw [StackScript.openBody]
  split
  · next hlimit =>
    refine h.raising fun limit hf => ?_
    cases hf
    rfl
  · next hroom =>
    refine running ⟨?_, Nat.lt_of_not_le hroom⟩
    rw [deeper, h.depth_eq]
    rfl

/-- Passes begin with the depth as it is. -/
theorem beginPasses (h : s.IsAtDepth policy base tasks) (passes : Passes) :
    Balanced policy base (beginPasses policy passes tasks s) := by
  cases passes with
  | once body => exact h.openBody body
  | _ => exact running (h.congr rfl rfl)

/-- An element is begun with the depth as it is, and what it is refused with is not the limit. -/
theorem beginElement (h : s.IsAtDepth policy base tasks) (item : Value) :
    Balanced policy base (beginElement policy item tasks s) := by
  cases item with
  | operator op =>
    cases op with
    | primitive p =>
      rw [StackScript.beginElement, perform_primitive]
      rcases happly : p.apply policy.mode s.machine with f | m
      · exact h.raising fun limit hf =>
          absurd hf ((Primitive.refuses_apply p _ _).ne_tooDeep happly limit)
      · exact running (h.congr rfl rfl)
    | control c =>
      rw [StackScript.beginElement, perform_control]
      rcases hprepare : c.prepare s.machine with f | ⟨passes, m⟩
      · exact h.raising fun limit hf =>
          absurd hf ((Control.refuses_prepare c _).ne_tooDeep hprepare limit)
      · have hprepared : { s with machine := m : State }.IsAtDepth policy base tasks :=
          h.congr rfl rfl
        exact hprepared.beginPasses passes
  | call n =>
    rw [StackScript.beginElement]
    split
    · exact h.raising fun limit hf => by cases hf
    · split
      · exact h.raising fun limit hf => by cases hf
      · split
        · exact h.openBody _
        · exact running (h.congr rfl rfl)
  | unknown n => exact h.raising fun limit hf => by cases hf
  | _ => exact running (h.congr rfl rfl)

end State.IsAtDepth

namespace Configuration.Balanced

variable {policy : Policy} {base : Nat} {c : Configuration}

/-- **Every step keeps the depth right.** -/
theorem advance (h : Balanced policy base c) : Balanced policy base (advance policy c) := by
  -- one case for each task, as in the definition of a step; only leaving a body and opening one do
  -- anything to the depth
  cases c with
  | finished outcome => exact h
  | raising f tasks s =>
    have hs : s.IsAtDepth policy base tasks := ⟨h.depth_eq, h.depth_le⟩
    have hf : ∀ limit, f = .tooDeep limit → limit = policy.maxDepth :=
      fun limit hf => h.limit_eq limit (congrArg some hf)
    cases tasks with
    | nil => exact ⟨h.depth_eq, h.depth_le, h.limit_eq⟩
    | cons task tasks =>
      cases task with
      | elements rest =>
        rw [StackScript.advance]
        split
        · exact State.IsAtDepth.raising (hs.congr rfl rfl) hf
        · exact State.IsAtDepth.running (hs.congr rfl rfl)
      | leave => exact hs.leave.raising hf
      | _ => exact State.IsAtDepth.raising (hs.congr rfl rfl) hf
  | running tasks s =>
    have hs : s.IsAtDepth policy base tasks := ⟨h.depth_eq, h.depth_le⟩
    cases tasks with
    | nil => exact ⟨h.depth_eq, h.depth_le, fun _ hf => by cases hf⟩
    | cons task tasks =>
      cases task with
      | elements items =>
        cases items with
        | nil => exact State.IsAtDepth.running (hs.congr rfl rfl)
        | cons item rest =>
          have hrest : s.IsAtDepth policy base (.elements rest :: tasks) := hs.congr rfl rfl
          exact hrest.beginElement item
      | leave => exact hs.leave.running
      | count body current step limit =>
        rw [StackScript.advance]
        split
        · have hpass : (s.push (.number (.int current))).IsAtDepth policy base
              (.counted body current step limit :: tasks) := hs.congr rfl rfl
          exact hpass.openBody body
        · exact State.IsAtDepth.running (hs.congr rfl rfl)
      | counted body current step limit =>
        rw [StackScript.advance]
        split <;> exact State.IsAtDepth.running (hs.congr rfl rfl)
      | each body values =>
        cases values with
        | nil => exact State.IsAtDepth.running (hs.congr rfl rfl)
        | cons v rest =>
          have hpass : (s.push v).IsAtDepth policy base (.each body rest :: tasks) :=
            hs.congr rfl rfl
          exact hpass.openBody body

/-- At every point of a run the depth is right, if it is right where the run starts. -/
theorem iterate (h : Balanced policy base c) (n : Nat) :
    Balanced policy base ((StackScript.advance policy)^[n] c) :=
  Function.Iterate.rec (Balanced policy base) h (fun _ => advance) n

end Configuration.Balanced

/-! ## Whole runs -/

/-- Where the machine starts when something is executed in a state, and what `StackScript.Execution`
says that it comes to. -/
inductive Starts (policy : Policy) (s : State) : Configuration → Outcome → Prop where
  /-- a list of elements is executed -/
  | execute (items : List Value) : Starts policy s (.start items s) (execute policy items s)
  /-- a body is entered -/
  | enter (body : List Value) :
    Starts policy s (openBody policy body [] s) (enterAt policy s body s)
  /-- an operator is executed -/
  | call (op : Operator) : Starts policy s (.startCall policy op s) (call policy op s)

namespace Starts

variable {policy : Policy} {s : State} {c : Configuration} {o : Outcome}

/-- The machine comes to the outcome that is told. -/
theorem reaches (h : Starts policy s c o) : Reaches policy c (.finished o) := by
  cases h with
  | execute items => exact reaches_execute policy items s
  | call op => exact reaches_call policy op s
  | enter body =>
    have hinner : Tells policy (enterAt policy s) s.depth := tells_enter policy _ s.depth rfl
    exact (hinner.reaches body [] s rfl).finish

/-- Where a run starts the depth is right. -/
theorem balanced (h : Starts policy s c o) (hs : s.depth ≤ policy.maxDepth) :
    Balanced policy s.depth c := by
  have hstart : s.IsAtDepth policy s.depth [] := ⟨rfl, hs⟩
  cases h with
  | execute items => exact State.IsAtDepth.running (hstart.congr rfl rfl)
  | enter body => exact hstart.openBody body
  | call op => exact hstart.beginElement (.operator op)

/-- Where a run ends the depth is that of the start, and a limit that it ends with is the right
one. -/
theorem balanced_finished (h : Starts policy s c o) (hs : s.depth ≤ policy.maxDepth) :
    Balanced policy s.depth (.finished o) := by
  obtain ⟨n, hn⟩ := h.reaches
  rw [← hn]
  exact (h.balanced hs).iterate n

end Starts

/-! ## What a host does -/

namespace Session

/-- Where an action makes the machine run, the depth is that of the session. -/
theorem exists_starts {s : Session} {a : Action} {c : Configuration} (h : a.start? s = some c) :
    ∃ t o, Starts s.policy t c o ∧ t.depth = s.state.depth := by
  cases a with
  | execute items =>
    obtain rfl := Option.some.inj h
    exact ⟨_, _, .execute items, rfl⟩
  | call op =>
    obtain rfl := Option.some.inj h
    exact ⟨_, _, .call op, rfl⟩
  | run source =>
    rw [Action.start?] at h
    rcases hparse : Program.parse source with e | program <;> rw [hparse] at h
    · cases h
    · obtain rfl := Option.some.inj h
      exact ⟨_, _, .execute _, rfl⟩
  | _ => cases h

/-- Executions leave the depth as it was. -/
theorem depth_execute (policy : Policy) (items : List Value) (s : State) :
    (StackScript.execute policy items s).state.depth = s.depth :=
  (runRelation_depth policy.mode).execute items s

/-- So do calls. -/
theorem depth_call (policy : Policy) (op : Operator) (s : State) :
    (StackScript.call policy op s).state.depth = s.depth :=
  step_depth policy _ (.operator op) s

mutual

/-- Whatever a host does leaves the depth as it was, or makes it zero, and the policy stays. -/
theorem depth_perform (s : Session) (a : Action) :
    (s.perform a).policy = s.policy ∧
      ((s.perform a).state.depth = s.state.depth ∨ (s.perform a).state.depth = 0) := by
  cases a with
  | run source =>
    rw [perform]
    rcases hparse : Program.parse source with e | program
    · rw [run_of_parse_error hparse]
      exact ⟨rfl, .inl rfl⟩
    · rw [run_of_parse hparse]
      have hdepth := depth_execute s.policy (s.withStore program.load).1
        (s.withStore program.load).2.state
      rcases houtcome : StackScript.execute s.policy (s.withStore program.load).1
        (s.withStore program.load).2.state with t | ⟨f, t⟩
      · rw [houtcome] at hdepth
        exact ⟨rfl, .inl hdepth⟩
      · exact ⟨rfl, .inr rfl⟩
  | execute items => exact ⟨rfl, .inl (depth_execute s.policy items s.state)⟩
  | call op => exact ⟨rfl, .inl (depth_call s.policy op s.state)⟩
  | pop =>
    rw [perform, pop]
    split <;> exact ⟨rfl, .inl rfl⟩
  | define name v =>
    rw [perform, define]
    split <;> exact ⟨rfl, .inl rfl⟩
  | reset => exact ⟨rfl, .inr rfl⟩
  | scope frame inner => exact depth_performAll (s.openScope frame).2 inner
  | _ => exact ⟨rfl, .inl rfl⟩

/-- So do several things, one after the other. -/
theorem depth_performAll (s : Session) (actions : List Action) :
    (s.performAll actions).policy = s.policy ∧
      ((s.performAll actions).state.depth = s.state.depth ∨
        (s.performAll actions).state.depth = 0) := by
  cases actions with
  | nil => exact ⟨rfl, .inl rfl⟩
  | cons a rest =>
    obtain ⟨hpolicy, hdepth⟩ := depth_perform s a
    obtain ⟨hpolicy', hdepth'⟩ := depth_performAll (s.perform a) rest
    refine ⟨hpolicy'.trans hpolicy, ?_⟩
    rw [performAll]
    omega

end

/-- At no point of what a host does is the depth above the limit. -/
theorem depth_le_of_visits {s t : Session} {actions : List Action} (h : Visits s actions t)
    (hs : s.state.depth ≤ s.policy.maxDepth) :
    t.policy = s.policy ∧ t.state.depth ≤ s.policy.maxDepth := by
  induction h with
  | here => exact ⟨rfl, hs⟩
  | during hstart n =>
    obtain ⟨t, o, hstarts, hdepth⟩ := exists_starts hstart
    exact ⟨rfl, ((hstarts.balanced (hdepth ▸ hs)).iterate n).depth_le⟩
  | inside _ ih => exact ih hs
  | @after s t a rest _ ih =>
    obtain ⟨hpolicy, hdepth⟩ := depth_perform s a
    rw [hpolicy] at ih
    exact ih (by omega)

end Session

/-! ## The law -/

/-- **The depth is balanced and bounded.** In a state whose depth is within the limit:

* executing a list of elements, entering a body and executing an operator all end, and leave the
  depth as it was, whether they are done or stopped by a fault; if that fault is that bodies are
  nested too deep, it tells the limit;
* at every point on the way the depth is what it was and as many more as bodies have been entered
  and not left, and it is not above the limit; and a fault that is raised and tells the limit tells
  the right one;
* whatever a host does with a session, the depth is not above the limit at any point, also within
  scopes and in the midst of runs, and in the end it is what it was, or zero after a run that was
  aborted and after a reset. So a session with no body open can still open all that the limit
  allows. -/
theorem depth_is_balanced (policy : Policy) (s : State) (h : s.depth ≤ policy.maxDepth) :
    (∀ c o, Starts policy s c o →
      Reaches policy c (.finished o) ∧ o.state.depth = s.depth ∧
      (∀ limit, o.fault? = some (.tooDeep limit) → limit = policy.maxDepth) ∧
      ∀ n, Balanced policy s.depth ((advance policy)^[n] c)) ∧
    ∀ actions : List Session.Action,
      (∀ t, Session.Visits ⟨policy, s⟩ actions t →
        t.policy = policy ∧ t.state.depth ≤ policy.maxDepth) ∧
      let after := Session.performAll ⟨policy, s⟩ actions
      after.policy = policy ∧ (after.state.depth = s.depth ∨ after.state.depth = 0) ∧
        (s.depth = 0 → enterAt after.policy after.state = enter policy policy.maxDepth) := by
  refine ⟨fun c o hstarts => ?_, fun actions => ⟨fun t hvisits => ?_, ?_⟩⟩
  · have hend := hstarts.balanced_finished h
    exact ⟨hstarts.reaches, hend.depth_eq, hend.limit_eq, (hstarts.balanced h).iterate⟩
  · exact Session.depth_le_of_visits hvisits h
  · obtain ⟨hpolicy, hdepth⟩ := Session.depth_performAll ⟨policy, s⟩ actions
    refine ⟨hpolicy, hdepth, fun hzero => ?_⟩
    have hnone : (Session.performAll ⟨policy, s⟩ actions).state.depth = 0 :=
      hdepth.elim (fun hsame => hsame.trans hzero) id
    rw [enterAt, hnone, hpolicy]
    rfl

/-- A conditional within a conditional, where one body may be open: the inner body is refused, and
the outer one is left. -/
theorem depth_is_balanced_of_conditionals :
    let policy : Policy := ⟨.compatible, 1⟩
    let chosen : List Value := [.bool true, .proc [], .operator (.control .ifTrue)]
    let items : List Value := [.bool true, .proc chosen, .operator (.control .ifTrue)]
    let s : State := .fresh .silent
    s.depth ≤ policy.maxDepth ∧
      (execute policy items s).fault? = some (.tooDeep 1) ∧
      (execute policy items s).state.depth = 0 ∧
      (∀ n, ((advance policy)^[n] (.start items s)).state.depth ≤ 1) ∧
      ((advance policy)^[4] (.start items s)).state.depth = 1 := by
  intro policy chosen items s
  have hroom : s.depth ≤ policy.maxDepth := Nat.zero_le 1
  obtain ⟨-, hdepth, -, hbalanced⟩ := (depth_is_balanced policy s hroom).1 _ _ (.execute items)
  exact ⟨hroom, rfl, hdepth, fun n => (hbalanced n).depth_le, rfl⟩

end StackScript
