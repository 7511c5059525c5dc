import StackScript.Proofs.Run.Budget
import StackScript.Proofs.Run.Log
import StackScript.Proofs.Run.Termination

/-!
# Fatal faults

A fault that the mode takes for fatal ends the whole run, from whatever depth it comes
(`fatal_fault_ends_run`). To say what lies between the body it came out of and the run as a whole,
everything that is executed in the course of a run is an `Activity`: a list of elements, a single
element, a loop with the passes it still has to make, a body that is entered. `Executes` says which
activities an activity executes directly, and in which states; `Encloses` is the same at any depth.

The fault goes through each enclosing activity unchanged (`Executes.raised`), and only the depth of
nesting tells the state in which the outermost one ends from the one in which the innermost did.
That nothing is executed on the way is said of single steps: once a fatal fault is on its way
outwards, a step does nothing but drop a task (`iterate_advance_raising`).
-/

namespace StackScript

/-! ## What a run executes -/

/-- Something that is executed in the course of a run. -/
inductive Activity where
  /-- elements, one after the other: a program, or what is left of it or of a body -/
  | elements (items : List Value)
  /-- one element: an operator, a name, a symbol or data -/
  | element (item : Value)
  /-- a counting loop that has come to the integer `current` and has `count` passes to make -/
  | counting (body : List Value) (d : Int) (count : Nat) (current : Int)
  /-- a loop that has these values before it -/
  | each (body values : List Value)
  /-- a body that is entered: that of a procedure, or one that a control operator was given -/
  | entry (body : List Value)

namespace Activity

variable {policy : Policy}

/-- What an activity comes to in a state. -/
def outcome (policy : Policy) (s : State) : Activity → Outcome
  | .elements items => execute policy items s
  | .element item => step policy.mode (enterAt policy s) item s
  | .counting body d count current => runCounting (enterAt policy s) body d count current s
  | .each body values => runEach (enterAt policy s) body values s
  | .entry body => enterAt policy s body s

/-- Every activity leaves the depth of nesting as it was. -/
theorem outcome_depth (policy : Policy) (s : State) (a : Activity) :
    (a.outcome policy s).state.depth = s.depth := by
  have hdepth := runRelation_depth policy.mode
  have hinner : ∀ body t, (enterAt policy s body t).state.depth = t.depth :=
    enter_depth policy _
  cases a with
  | elements items => exact hdepth.execute items s
  | element item => exact hdepth.step hinner item s
  | counting body d count current => exact hdepth.runCounting hinner body d count current s
  | each body values => exact hdepth.runEach hinner body values s
  | entry body => exact hinner body s

/-- Bodies are entered at the depth of a state, whatever else the state is. -/
theorem enterAt_congr {s t : State} (h : s.depth = t.depth) :
    enterAt policy s = enterAt policy t := by
  rw [enterAt, enterAt, h]

/-- What is left to do after an activity is done at the depth at which the activity was. -/
theorem andThen_outcome {s : State} {o : Outcome} (h : o.state.depth = s.depth)
    (next : Entry → State → Outcome) :
    (o.andThen fun t => next (enterAt policy s) t) =
      o.andThen fun t => next (enterAt policy t) t := by
  cases o with
  | done t =>
    have hsame : enterAt policy s = enterAt policy t := enterAt_congr h.symm
    simp only [Outcome.andThen, hsame]
  | raised f t => rfl

/-- Elements are the first of them, settled, and then the others. -/
theorem outcome_elements (item : Value) (rest : List Value) (s : State) :
    (elements (item :: rest)).outcome policy s =
      (((element item).outcome policy s).settle policy.mode).andThen
        fun t => (elements rest).outcome policy t := by
  have hdepth := outcome_depth policy s (element item)
  have hsettled : (((element item).outcome policy s).settle policy.mode).state.depth =
      s.depth := by
    rw [← hdepth]
    rcases (element item).outcome policy s with t | ⟨f, t⟩
    · rfl
    · rw [Outcome.settle]
      split <;> rfl
  rw [outcome, execute, executeWith_cons]
  exact andThen_outcome hsettled fun inner t => executeWith policy.mode inner rest t

/-- A counting loop is a pass, and then the others. -/
theorem outcome_counting (body : List Value) (d : Int) (count : Nat) (current : Int) (s : State) :
    (counting body d (count + 1) current).outcome policy s =
      ((entry body).outcome policy (s.push (.number (.int (.ofInt current))))).andThen
        fun t => (counting body d count (current + d)).outcome policy t := by
  rw [outcome, runCounting_succ]
  exact andThen_outcome (outcome_depth policy (s.push _) (entry body))
    fun inner t => runCounting inner body d count (current + d) t

/-- A loop over values is a pass, and then the others. -/
theorem outcome_each (body : List Value) (v : Value) (rest : List Value) (s : State) :
    (each body (v :: rest)).outcome policy s =
      ((entry body).outcome policy (s.push v)).andThen
        fun t => (each body rest).outcome policy t := by
  rw [outcome, runEach_cons]
  exact andThen_outcome (outcome_depth policy (s.push v) (entry body))
    fun inner t => runEach inner body rest t

/-- A body is its elements, one level further in, where the limit allows it. -/
theorem outcome_entry {body : List Value} {s : State} (h : s.depth < policy.maxDepth) :
    (entry body).outcome policy s =
      ((elements body).outcome policy s.deeper).mapState State.shallower := by
  obtain ⟨budget, hbudget⟩ : ∃ budget, policy.maxDepth - s.depth = budget + 1 :=
    ⟨policy.maxDepth - s.depth - 1, by omega⟩
  have hinner : policy.maxDepth - s.deeper.depth = budget := by
    change policy.maxDepth - (s.depth + 1) = budget
    omega
  rw [outcome, outcome, execute, enterAt, enterAt, hbudget, hinner, enter]

/-- Which activities an activity executes directly, from a state in a state. A list of elements
executes the first of them and then, unless that has raised a fatal fault, the others; a loop
executes its body and then, unless a fault came out of it, its other passes. -/
inductive Executes (policy : Policy) : Activity → State → Activity → State → Prop where
  /-- the first element of a list -/
  | first {item : Value} {rest : List Value} {s : State} :
    Executes policy (.elements (item :: rest)) s (.element item) s
  /-- the elements after one that was executed, and whose fault was recorded if it raised one -/
  | rest {item : Value} {rest : List Value} {s t : State}
    (h : ((element item).outcome policy s).settle policy.mode = .done t) :
    Executes policy (.elements (item :: rest)) s (.elements rest) t
  /-- the body of a procedure, when its name is called -/
  | procedure {n : Name} {body : List Value} {s : State}
    (h : s.machine.scopes.lookup? s.machine.store n.text = some (.proc body))
    (hbound : (policy.mode.skipsFalsyBindings && (Value.proc body).isFalsy s.machine.store) =
      false) :
    Executes policy (.element (.call n)) s (.entry body) s
  /-- the body that a conditional has chosen -/
  | chosen {c : Control} {body : List Value} {s : State} {m : Machine}
    (h : c.perform s.machine = (.ok (.once body), m)) :
    Executes policy (.element (.operator (.control c))) s (.entry body) { s with machine := m }
  /-- the passes of a counting loop -/
  | count {c : Control} {body : List Value} {start d limit : Int64} {s : State} {m : Machine}
    (h : c.perform s.machine = (.ok (.counting body start d limit), m)) :
    Executes policy (.element (.operator (.control c))) s
      (.counting body d.toInt (Control.passCount start.toInt d.toInt limit.toInt) start.toInt)
      { s with machine := m }
  /-- the passes of a loop over values -/
  | each {c : Control} {body values : List Value} {s : State} {m : Machine}
    (h : c.perform s.machine = (.ok (.each body values), m)) :
    Executes policy (.element (.operator (.control c))) s (.each body values)
      { s with machine := m }
  /-- the body of a counting loop, in its next pass -/
  | countPass {body : List Value} {d current : Int} {count : Nat} {s : State} :
    Executes policy (.counting body d (count + 1) current) s (.entry body)
      (s.push (.number (.int (.ofInt current))))
  /-- the passes of a counting loop after one that was made to its end -/
  | countRest {body : List Value} {d current : Int} {count : Nat} {s t : State}
    (h : (entry body).outcome policy (s.push (.number (.int (.ofInt current)))) = .done t) :
    Executes policy (.counting body d (count + 1) current) s
      (.counting body d count (current + d)) t
  /-- the body of a loop over values, in its next pass -/
  | eachPass {body rest : List Value} {v : Value} {s : State} :
    Executes policy (.each body (v :: rest)) s (.entry body) (s.push v)
  /-- the passes of a loop over values after one that was made to its end -/
  | eachRest {body rest : List Value} {v : Value} {s t : State}
    (h : (entry body).outcome policy (s.push v) = .done t) :
    Executes policy (.each body (v :: rest)) s (.each body rest) t
  /-- the elements of a body, one level further in -/
  | entered {body : List Value} {s : State} (h : s.depth < policy.maxDepth) :
    Executes policy (.entry body) s (.elements body) s.deeper

/-- Which activities are executed in the course of an activity, at any depth. -/
inductive Encloses (policy : Policy) : Activity → State → Activity → State → Prop where
  /-- the activity itself -/
  | refl {a : Activity} {s : State} : Encloses policy a s a s
  /-- what is executed in the course of one that it executes directly -/
  | head {a b c : Activity} {s t u : State} (h : Executes policy a s b t)
    (hrest : Encloses policy b t c u) : Encloses policy a s c u

/-! ## A fatal fault goes through -/

/-- A fatal fault that comes out of an activity comes out of the one that executes it directly, and
the state is the same but for the body that is left. -/
theorem Executes.raised {a b : Activity} {s t u : State} {f : Fault}
    (h : Executes policy a s b t) (hf : policy.mode.isFatal f = true)
    (hraised : b.outcome policy t = .raised f u) :
    a.outcome policy s = .raised f u ∨ a.outcome policy s = .raised f u.shallower := by
  cases h with
  | first =>
    left
    rw [outcome_elements, hraised, Outcome.settle, if_pos hf]
    rfl
  | rest hsettled =>
    left
    rw [outcome_elements, hsettled]
    exact hraised
  | procedure hlookup hbound =>
    left
    rw [outcome, step, callName, hlookup]
    dsimp only
    rw [hbound, if_neg Bool.false_ne_true]
    exact hraised
  | chosen hperform | each hperform =>
    left
    rw [outcome, step, invoke, hperform]
    exact hraised
  | count hperform =>
    left
    rw [outcome, step, invoke, hperform]
    dsimp only
    rw [runPasses_counting]
    exact hraised
  | countPass =>
    left
    rw [outcome_counting, hraised]
    rfl
  | countRest hdone =>
    left
    rw [outcome_counting, hdone]
    exact hraised
  | eachPass =>
    left
    rw [outcome_each, hraised]
    rfl
  | eachRest hdone =>
    left
    rw [outcome_each, hdone]
    exact hraised
  | entered hdepth =>
    right
    rw [outcome_entry hdepth, hraised]
    rfl

/-- A fatal fault that comes out of an activity at any depth comes out of those that enclose it, and
nothing but the depth differs between the states in which they end. -/
theorem Encloses.raised {a b : Activity} {s t u : State} {f : Fault}
    (h : Encloses policy a s b t) (hf : policy.mode.isFatal f = true)
    (hraised : b.outcome policy t = .raised f u) :
    a.outcome policy s = .raised f (u.atDepth s.depth) := by
  suffices hends : ∃ v, a.outcome policy s = .raised f v ∧ v.machine = u.machine ∧
      v.faults = u.faults by
    obtain ⟨v, hv, hmachine, hfaults⟩ := hends
    have hdepth := outcome_depth policy s a
    rw [hv] at hdepth ⊢
    rw [State.atDepth, ← hmachine, ← hfaults, ← hdepth]
    rfl
  induction h with
  | refl => exact ⟨u, hraised, rfl, rfl⟩
  | head hstep _ ih =>
    obtain ⟨v, hv, hmachine, hfaults⟩ := ih hraised
    rcases hstep.raised hf hv with hsame | hleft
    · exact ⟨v, hsame, hmachine, hfaults⟩
    · exact ⟨v.shallower, hleft, hmachine, hfaults⟩

end Activity

/-! ## Nothing is executed on the way -/

/-- Once a fatal fault is on its way outwards, each step drops a task and does nothing else. -/
theorem iterate_advance_raising {policy : Policy} {f : Fault}
    (hf : policy.mode.isFatal f = true) (tasks : List Task) (s : State) (n : Nat) :
    ∃ depth, (advance policy)^[n] (.raising f tasks s) =
        .raising f (tasks.drop n) (s.atDepth depth) ∧ n ≤ tasks.length ∨
      (advance policy)^[n] (.raising f tasks s) = .finished (.raised f (s.atDepth depth)) ∧
        tasks.length < n := by
  induction n generalizing tasks s with
  | zero => exact ⟨s.depth, .inl ⟨rfl, Nat.zero_le _⟩⟩
  | succ n ih =>
    cases tasks with
    | nil =>
      refine ⟨s.depth, .inr ⟨?_, Nat.succ_pos n⟩⟩
      exact Function.iterate_fixed rfl n
    | cons task tasks =>
      have hnext : ∃ depth,
          advance policy (.raising f (task :: tasks) s) = .raising f tasks (s.atDepth depth) := by
        cases task with
        | elements rest => exact ⟨s.depth, if_pos hf⟩
        | leave => exact ⟨s.depth - 1, rfl⟩
        | _ => exact ⟨s.depth, rfl⟩
      obtain ⟨depth, hdepth⟩ := hnext
      obtain ⟨last, hlast⟩ := ih tasks (s.atDepth depth)
      refine ⟨last, ?_⟩
      rw [Function.iterate_succ_apply, hdepth, List.drop_succ_cons, List.length_cons,
        Nat.add_le_add_iff_right, Nat.add_lt_add_iff_right]
      exact hlast

/-- A run comes to one outcome only. -/
theorem Reaches.outcome_unique {policy : Policy} {c : Configuration} {o o' : Outcome}
    (h : Reaches policy c (.finished o)) (h' : Reaches policy c (.finished o')) : o = o' := by
  obtain ⟨n, hn⟩ := h.finished
  obtain ⟨m, hm⟩ := h'.finished
  have heq : Configuration.finished o = .finished o' :=
    (hn (max n m) (Nat.le_max_left n m)).symm.trans (hm (max n m) (Nat.le_max_right n m))
  exact Configuration.finished.inj heq

/-- A run that raises a fatal fault anywhere ends with it, in the state in which it was raised. -/
theorem execute_of_reaches_raising {policy : Policy} {items : List Value} {s t : State}
    {f : Fault} {tasks : List Task} (hf : policy.mode.isFatal f = true)
    (h : Reaches policy (.start items s) (.raising f tasks t)) :
    execute policy items s = .raised f (t.atDepth s.depth) := by
  obtain ⟨depth, hend⟩ := iterate_advance_raising hf tasks t (tasks.length + 1)
  have hfinished : Reaches policy (.start items s) (.finished (.raised f (t.atDepth depth))) := by
    refine h.trans ⟨tasks.length + 1, ?_⟩
    rcases hend with ⟨-, hle⟩ | ⟨hend, -⟩
    · omega
    · exact hend
  have houtcome := (reaches_execute policy items s).outcome_unique hfinished
  have hdepth := (runRelation_depth policy.mode).execute items s
  rw [houtcome] at hdepth ⊢
  change depth = s.depth at hdepth
  rw [hdepth]

/-! ## The law -/

/-- **A fatal fault ends the run.** In every state, executing a list of elements or entering a body
passes on fatal faults only, and what it records are recoverable faults, added to those recorded
before. A fault that comes out of a body comes out of everything that encloses it, at whatever
depth, be it a list of elements, a procedure call, a conditional or a loop: the fault is the same,
and so is the state but for the depth of nesting. And nothing is executed on the way: once a fatal
fault is raised anywhere in a run, the run does nothing but drop the tasks it has left, one by one,
and ends with the fault in the state in which it was raised. -/
theorem fatal_fault_ends_run (policy : Policy) (s : State) :
    (∀ items f t, execute policy items s = .raised f t → policy.mode.isFatal f = true) ∧
    (∀ body f t, enterAt policy s body s = .raised f t → policy.mode.isFatal f = true) ∧
    (∀ items, s.RecoversTo policy.mode (execute policy items s).state) ∧
    (∀ body, s.RecoversTo policy.mode (enterAt policy s body s).state) ∧
    (∀ a body t f u, Activity.Encloses policy a s (.entry body) t →
      enterAt policy t body t = .raised f u →
      a.outcome policy s = .raised f (u.atDepth s.depth)) ∧
    (∀ items f tasks t, Reaches policy (.start items s) (.raising f tasks t) →
      policy.mode.isFatal f = true →
      execute policy items s = .raised f (t.atDepth s.depth) ∧
      ∀ n ≤ tasks.length, ∃ depth, (advance policy)^[n] (.raising f tasks t) =
        .raising f (tasks.drop n) (t.atDepth depth)) := by
  have hfatal : ∀ {t}, OnlyFatal policy.mode (enterAt policy t) := onlyFatal_enter policy _
  have hlog := runRelation_recoversTo policy.mode
  refine ⟨?_, ?_, ?_, ?_, ?_, ?_⟩
  · intro items f t h
    exact executeWith_raised h
  · intro body f t h
    exact hfatal h
  · intro items
    exact hlog.execute items s
  · intro body
    exact hlog.enter _ body s
  · intro a body t f u hencloses hraised
    exact hencloses.raised (hfatal hraised) hraised
  · intro items f tasks t hreaches hf
    refine ⟨execute_of_reaches_raising hf hreaches, ?_⟩
    intro n hn
    obtain ⟨depth, ⟨hdrop, -⟩ | ⟨-, hlt⟩⟩ := iterate_advance_raising hf tasks t n
    · exact ⟨depth, hdrop⟩
    · omega

/-- A loop within a conditional, whose body leaves a scope that is not there in its first pass: the
conditional ends with the fault, the two passes that are left are not made, and neither the loop nor
the conditional is counted behind. -/
theorem fatal_fault_of_loop_in_conditional :
    let int (n : Int) : Value := .number (.int (.ofInt n))
    let count : Value := .operator (.primitive .count)
    let pass : List Value := [.operator (.primitive .endScope), count]
    let chosen : List Value :=
      [int 1, int 1, int 3, .proc pass, .operator (.control .forLoop), count]
    let items : List Value := [.bool true, .proc chosen, .operator (.control .ifTrue), count]
    let s : State := .fresh .silent
    let inside : State := (s.push (int 1)).atDepth 1
    Activity.Encloses .standard (.elements items) s (.entry pass) inside ∧
      execute .standard items s = .raised .noScope (s.push (int 1)) := by
  intro int count pass chosen items s inside
  have hloop : Activity.Encloses .standard (.elements chosen) s.deeper (.entry pass) inside :=
    .head (.rest rfl) (.head (.rest rfl) (.head (.rest rfl) (.head (.rest rfl)
      (.head .first (.head (.count rfl) (.head .countPass .refl))))))
  have hencloses : Activity.Encloses .standard (.elements items) s (.entry pass) inside :=
    .head (.rest rfl) (.head (.rest rfl)
      (.head .first (.head (.chosen rfl) (.head (.entered (by decide)) hloop))))
  have hraised : enterAt .standard inside pass inside = .raised .noScope inside := rfl
  obtain ⟨-, -, -, -, hlaw, -⟩ := fatal_fault_ends_run .standard s
  exact ⟨hencloses, hlaw (.elements items) pass inside .noScope inside hencloses hraised⟩

end StackScript
