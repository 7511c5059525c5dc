import StackScript.Proofs.Run.Recovery
import StackScript.Proofs.Run.Stepping

/-!
# Every run ends

The machine of `StackScript.Proofs.Run.Stepping` comes to an end on every list of elements, in every
state, mode and limit on nesting, and what it comes to is what `execute` says
(`execution_terminates`).

The measure is lexicographic and follows how `execute` is built. Opening a body uses up one of the
bodies that the limit still allows at this depth; within one body the elements get fewer; and within
one control operator the passes do, where a counting loop comes nearer to its limit with each
(`distancePast_lt`). So there is one lemma for the passes of each loop, one for elements, one for
bodies, and the induction on what the limit allows comes last.
-/

namespace StackScript

open StackScript.Configuration (resume)

/-! ## From the outcome of a body to that of an element -/

section Element

variable {policy : Policy} {inner : Entry} {depth : Nat}

/-- A way of running bodies that tells what the machine does when it opens them at a depth, and
leaves the depth as it was. -/
structure Tells (policy : Policy) (inner : Entry) (depth : Nat) : Prop where
  /-- the machine comes to the outcome that is told -/
  reaches : ∀ (body : List Value) (tasks : List Task) (s : State), s.depth = depth →
    Reaches policy (openBody policy body tasks s) (resume tasks (inner body s))
  /-- the depth is the same again -/
  keeps : ∀ (body : List Value) (s : State), (inner body s).state.depth = s.depth

namespace Tells

/-- Where a counting loop makes a pass, the machine does. -/
theorem countPass (h : Tells policy inner depth) (body : List Value) (tasks : List Task)
    {step limit current : Int64} {s : State} (hwithin : isWithin current step limit = true)
    (hs : s.depth = depth) :
    Reaches policy (.running (.count body current step limit :: tasks) s)
      (resume (.counted body current step limit :: tasks)
        (inner body (s.push (.number (.int current))))) := by
  apply Reaches.head
  rw [advance, if_pos hwithin]
  exact h.reaches body _ (s.push (.number (.int current))) hs

/-- The machine and a counting loop compare and add alike, so they stay in step. -/
theorem counting (h : Tells policy inner depth) (body : List Value) (tasks : List Task)
    (step limit current : Int64) (s : State) (hs : s.depth = depth) :
    Reaches policy (.running (.count body current step limit :: tasks) s)
      (resume tasks (runWithin inner body step limit current s)) := by
  fun_induction runWithin inner body step limit current s with
  | case1 current s hwithin t hbody next hfits ih =>
    have hpass := h.countPass body tasks hwithin hs
    have hkept := h.keeps body (s.push (.number (.int current)))
    rw [hbody] at hpass hkept
    refine hpass.trans (Reaches.head ?_)
    simp only [resume, advance, hfits]
    exact ih (hkept.trans hs)
  | case2 current s hwithin t hbody hover =>
    have hpass := h.countPass body tasks hwithin hs
    rw [hbody] at hpass
    refine hpass.trans (Reaches.head ?_)
    simp only [resume, advance, hover]
    exact .refl _
  | case3 current s hwithin f t hbody =>
    have hpass := h.countPass body tasks hwithin hs
    rw [hbody] at hpass
    exact hpass.tail
  | case4 current s hpast =>
    apply Reaches.head
    rw [advance, if_neg hpast]
    exact .refl _

theorem each (h : Tells policy inner depth) (body : List Value) (tasks : List Task)
    (values : List Value) (s : State) (hs : s.depth = depth) :
    Reaches policy (.running (.each body values :: tasks) s)
      (resume tasks (runEach inner body values s)) := by
  induction values generalizing s with
  | nil => exact (Reaches.refl _).tail
  | cons v rest ih =>
    have hkept := h.keeps body (s.push v)
    apply Reaches.head
    refine (h.reaches body _ (s.push v) hs).trans ?_
    rw [runEach]
    rcases hbody : inner body (s.push v) with t | ⟨f, t⟩
    · rw [hbody] at hkept
      exact ih t (hkept.trans hs)
    · exact (Reaches.refl _).tail

/-- The machine makes the passes of a control operator. -/
theorem passes (h : Tells policy inner depth) (passes : Passes) (tasks : List Task) (s : State)
    (hs : s.depth = depth) :
    Reaches policy (beginPasses policy passes tasks s)
      (resume tasks (runPasses inner passes s)) := by
  cases passes with
  | none => exact .refl _
  | once body => exact h.reaches body tasks s hs
  | counting body start step limit => exact h.counting body tasks step limit start s hs
  | each body values => exact h.each body tasks values s hs

/-- The machine executes an element. -/
theorem element (h : Tells policy inner depth) (item : Value) (tasks : List Task) (s : State)
    (hs : s.depth = depth) :
    Reaches policy (beginElement policy item tasks s)
      (resume tasks (step policy.mode inner item s)) := by
  cases item with
  | operator op =>
    cases op with
    | primitive p =>
      rw [beginElement, step, invoke]
      rcases p.perform policy.mode s.machine with ⟨f | m, after⟩ <;> exact .refl _
    | control c =>
      rw [beginElement, step, invoke_control, perform_control]
      rcases hprepare : c.prepare s.machine with f | ⟨passes, m⟩
      · exact .refl _
      · exact h.passes passes tasks _ hs
  | call n =>
    rw [beginElement, step, callName]
    rcases s.machine.scopes.lookup? s.machine.store n.text with _ | v
    · exact .refl _
    dsimp only
    rcases policy.mode.skipsFalsyBindings && v.isFalsy s.machine.store with _ | _
    · rw [if_neg Bool.false_ne_true, if_neg Bool.false_ne_true]
      cases v with
      | proc body => exact h.reaches body tasks s hs
      | _ => exact .refl _
    · exact .refl _
  | _ => exact .refl _

/-- The machine executes a list of elements. -/
theorem elements (h : Tells policy inner depth) (items : List Value) (tasks : List Task)
    (s : State) (hs : s.depth = depth) :
    Reaches policy (.running (.elements items :: tasks) s)
      (resume tasks (executeWith policy.mode inner items s)) := by
  induction items generalizing s with
  | nil => exact (Reaches.refl _).tail
  | cons item rest ih =>
    have hkept := (runRelation_depth policy.mode).step h.keeps item s
    apply Reaches.head
    refine (h.element item (.elements rest :: tasks) s hs).trans ?_
    rw [executeWith]
    rcases hstep : step policy.mode inner item s with t | ⟨f, t⟩
    · rw [hstep] at hkept
      exact ih t (hkept.trans hs)
    · rw [hstep] at hkept
      apply Reaches.head
      simp only [resume, advance]
      rcases policy.mode.isFatal f with _ | _
      · exact ih (t.record f) (hkept.trans hs)
      · exact .refl _

end Tells

end Element

/-! ## Bodies and whole runs -/

/-- The machine runs a body, within whatever the limit allows at this depth. -/
theorem tells_enter (policy : Policy) (budget depth : Nat)
    (hbudget : policy.maxDepth - depth = budget) :
    Tells policy (enter policy budget) depth := by
  refine ⟨fun body tasks s hs => ?_, enter_depth policy budget⟩
  induction budget generalizing depth body tasks s with
  | zero =>
    rw [openBody, if_pos (by omega)]
    exact .refl _
  | succ budget ih =>
    -- inside the body the depth is one more, and the budget left is one less
    have hinner : Tells policy (enter policy budget) (depth + 1) :=
      ⟨fun body tasks s hs => ih (depth + 1) (by omega) body tasks s hs, enter_depth policy budget⟩
    have hbody := hinner.elements body (.leave :: tasks) s.deeper (congrArg (· + 1) hs)
    rw [openBody, if_neg (by omega), enter]
    rcases hrun : executeWith policy.mode (enter policy budget) body s.deeper with t | ⟨f, t⟩ <;>
      rw [hrun] at hbody <;> exact hbody.tail

/-- The machine comes to the outcome of `execute`. -/
theorem reaches_execute (policy : Policy) (items : List Value) (s : State) :
    Reaches policy (.start items s) (.finished (execute policy items s)) := by
  have hinner : Tells policy (enterAt policy s) s.depth := tells_enter policy _ s.depth rfl
  exact (hinner.elements items [] s rfl).finish

/-- **Every run ends.** For every list of elements, state, mode and limit on nesting there is a
number of steps after which the run is over and stays over. It has then come to the outcome that
`execute` tells: it is done, or it was stopped by a fatal fault. -/
theorem execution_terminates (policy : Policy) (items : List Value) (s : State) :
    ∃ outcome, (∃ n, ∀ m, n ≤ m → (advance policy)^[m] (.start items s) = .finished outcome) ∧
      outcome = execute policy items s ∧
      ((∃ after, outcome = .done after) ∨
        ∃ f after, outcome = .raised f after ∧ policy.mode.isFatal f = true) := by
  refine ⟨execute policy items s, (reaches_execute policy items s).finished, rfl, ?_⟩
  rcases houtcome : execute policy items s with after | ⟨f, after⟩
  · exact .inl ⟨after, rfl⟩
  · exact .inr ⟨f, after, rfl, executeWith_raised houtcome⟩

end StackScript
