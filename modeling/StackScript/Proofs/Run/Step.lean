import StackScript.Execution
import StackScript.Proofs.Operator.Atomic
import StackScript.Proofs.Run.Counting

/-!
# What one element can do, and what a whole run keeps

`StepCase` lists the ways in which executing one element of a body can go, each with everything that
is known when it goes that way. It is proved once that there are no others (`step_cases`); what is
said about runs further on is said by these cases and does not look into operators again.

A relation between the states before and after that holds across every single way of changing the
state (`RunRelation`) holds across a whole run (`RunRelation.execute`, `RunRelation.enter`), by
induction on the budget, the elements and the passes. The first such relation is that the depth of
nesting is the same again.
-/

namespace StackScript

/-! ## Operators within a state -/

section Invoke

variable {mode : Mode} {enter : Entry} {s : State}

/-- A primitive changes the machine or raises a fault and changes nothing. -/
theorem invoke_primitive (p : Primitive) :
    invoke mode enter (.primitive p) s =
      match p.apply mode s.machine with
      | .ok m => .done { s with machine := m }
      | .error f => .raised f s := by
  rw [invoke, perform_primitive]
  rcases p.apply mode s.machine with f | m <;> rfl

/-- A control operator runs its passes without the operands, or raises a fault and changes
nothing. -/
theorem invoke_control (c : Control) :
    invoke mode enter (.control c) s =
      match c.prepare s.machine with
      | .ok (passes, m) => runPasses enter passes { s with machine := m }
      | .error f => .raised f s := by
  rw [invoke, perform_control]
  rcases c.prepare s.machine with f | ⟨passes, m⟩ <;> rfl

end Invoke

/-! ## The cases of a step -/

/-- Whether the value is data, which is pushed when it is met in a body. -/
def Value.isData : Value → Bool
  | .operator _ | .call _ | .unknown _ => false
  | _ => true

/-- The ways in which executing an element can go, from a state to an outcome. -/
inductive StepCase (mode : Mode) (enter : Entry) (s : State) : Value → Outcome → Prop where
  /-- a primitive does what it does -/
  | primitive {p : Primitive} {m : Machine} (h : p.apply mode s.machine = .ok m) :
    StepCase mode enter s (.operator (.primitive p)) (.done { s with machine := m })
  /-- the operands of a primitive are refused -/
  | primitiveFault {p : Primitive} {f : Fault} (h : p.apply mode s.machine = .error f) :
    StepCase mode enter s (.operator (.primitive p)) (.raised f s)
  /-- a control operator takes its operands and runs its passes -/
  | control {c : Control} {passes : Passes} {m : Machine}
    (h : c.prepare s.machine = .ok (passes, m)) :
    StepCase mode enter s (.operator (.control c)) (runPasses enter passes { s with machine := m })
  /-- the operands of a control operator are refused -/
  | controlFault {c : Control} {f : Fault} (h : c.prepare s.machine = .error f) :
    StepCase mode enter s (.operator (.control c)) (.raised f s)
  /-- a name is bound to a procedure, which is run -/
  | procedure {n : Name} {body : List Value}
    (h : s.machine.scopes.lookup? s.machine.store n.text = some (.proc body))
    (hbound : (mode.skipsFalsyBindings && (Value.proc body).isFalsy s.machine.store) = false) :
    StepCase mode enter s (.call n) (enter body s)
  /-- a name is bound to something else, which is pushed -/
  | binding {n : Name} {v : Value}
    (h : s.machine.scopes.lookup? s.machine.store n.text = some v)
    (hbound : (mode.skipsFalsyBindings && v.isFalsy s.machine.store) = false)
    (hv : ∀ body, v ≠ .proc body) :
    StepCase mode enter s (.call n) (.done (s.push v))
  /-- a name is bound to something that counts as nothing -/
  | falsyBinding {n : Name} {v : Value}
    (h : s.machine.scopes.lookup? s.machine.store n.text = some v)
    (hfalsy : (mode.skipsFalsyBindings && v.isFalsy s.machine.store) = true) :
    StepCase mode enter s (.call n) (.raised (.falsyBinding n.text (v.text s.machine.store)) s)
  /-- a name is not bound -/
  | notFound {n : Name} (h : s.machine.scopes.lookup? s.machine.store n.text = none) :
    StepCase mode enter s (.call n) (.raised (.notFound n.text) s)
  /-- a symbol means nothing -/
  | unknownSymbol {n : Name} :
    StepCase mode enter s (.unknown n) (.raised (.unknownSymbol n.text) s)
  /-- data is pushed -/
  | data {v : Value} (hv : v.isData = true) : StepCase mode enter s v (.done (s.push v))

/-- Executing a name goes in one of the ways of a step. -/
theorem callName_cases (mode : Mode) (enter : Entry) (n : Name) (s : State) :
    StepCase mode enter s (.call n) (callName mode enter n s) := by
  rw [callName]
  rcases hlookup : s.machine.scopes.lookup? s.machine.store n.text with _ | v
  · exact .notFound hlookup
  dsimp only
  rcases hfalsy : mode.skipsFalsyBindings && v.isFalsy s.machine.store with _ | _
  · rw [if_neg Bool.false_ne_true]
    cases v with
    | proc body => exact .procedure hlookup hfalsy
    | _ => exact .binding hlookup hfalsy (by simp)
  · rw [if_pos rfl]
    exact .falsyBinding hlookup hfalsy

/-- **The cases of a step**: executing an element goes in one of the ways listed. -/
theorem step_cases (mode : Mode) (enter : Entry) (item : Value) (s : State) :
    StepCase mode enter s item (step mode enter item s) := by
  cases item with
  | operator op =>
    cases op with
    | primitive p =>
      rw [step, invoke_primitive]
      rcases h : p.apply mode s.machine with f | m
      · exact .primitiveFault h
      · exact .primitive h
    | control c =>
      rw [step, invoke_control]
      rcases h : c.prepare s.machine with f | ⟨passes, m⟩
      · exact .controlFault h
      · exact .control h
  | call n => exact callName_cases mode enter n s
  | unknown n => exact .unknownSymbol
  | _ => exact .data rfl

/-! ## What a whole run keeps -/

/-- A relation between the states before and after, for runs in a mode: it holds across every single
way in which the state is changed, it holds across two changes if it holds across each, and a body
that is entered and left does not matter to it. -/
structure RunRelation (mode : Mode) (R : State → State → Prop) : Prop where
  /-- nothing changes -/
  refl : ∀ s, R s s
  /-- one change after another -/
  trans : ∀ {s t u}, R s t → R t u → R s u
  /-- a primitive works on the machine -/
  primitive : ∀ {p s m}, Primitive.apply mode p s.machine = .ok m → R s { s with machine := m }
  /-- a control operator takes its operands -/
  control : ∀ {c s passes m}, Control.prepare c s.machine = .ok (passes, m) →
    R s { s with machine := m }
  /-- a value is pushed -/
  push : ∀ s v, R s (s.push v)
  /-- a fault is recorded -/
  record : ∀ s f, mode.isFatal f = false → R s (s.record f)
  /-- a body is run one level further in -/
  nested : ∀ {s t}, R s.deeper t → R s t.shallower

namespace RunRelation

variable {mode : Mode} {R : State → State → Prop} {inner : Entry}

/-- The passes of a counting loop keep what their body keeps. -/
theorem runCounting (hR : RunRelation mode R) (hinner : ∀ body s, R s (inner body s).state)
    (body : List Value) (d : Int) (count : Nat) (current : Int) (s : State) :
    R s (runCounting inner body d count current s).state := by
  induction count generalizing current s with
  | zero => exact hR.refl s
  | succ count ih =>
    have hpass := hR.trans (hR.push s (.number (.int (.ofInt current)))) (hinner body _)
    rw [StackScript.runCounting]
    rcases hinnered : inner body (s.push (.number (.int (.ofInt current)))) with t | ⟨f, t⟩
    · rw [hinnered] at hpass
      exact hR.trans hpass (ih _ _)
    · rw [hinnered] at hpass
      exact hpass

/-- The passes of a loop over values keep what their body keeps. -/
theorem runEach (hR : RunRelation mode R) (hinner : ∀ body s, R s (inner body s).state)
    (body values : List Value) (s : State) : R s (runEach inner body values s).state := by
  induction values generalizing s with
  | nil => exact hR.refl s
  | cons v rest ih =>
    have hpass := hR.trans (hR.push s v) (hinner body _)
    rw [StackScript.runEach]
    rcases hinnered : inner body (s.push v) with t | ⟨f, t⟩
    · rw [hinnered] at hpass
      exact hR.trans hpass (ih _)
    · rw [hinnered] at hpass
      exact hpass

/-- Any passes keep what their body keeps. -/
theorem runPasses (hR : RunRelation mode R) (hinner : ∀ body s, R s (inner body s).state)
    (passes : Passes) (s : State) : R s (runPasses inner passes s).state := by
  cases passes with
  | none => exact hR.refl s
  | once body => exact hinner body s
  | counting body start d limit =>
    rw [runPasses_counting]
    exact hR.runCounting hinner body _ _ _ s
  | each body values => exact hR.runEach hinner body values s

/-- One element keeps what the bodies that it runs keep. -/
theorem step (hR : RunRelation mode R) (hinner : ∀ body s, R s (inner body s).state)
    (item : Value) (s : State) : R s (step mode inner item s).state := by
  have hcase := step_cases mode inner item s
  generalize StackScript.step mode inner item s = outcome at hcase ⊢
  cases hcase with
  | primitive h => exact hR.primitive h
  | control h => exact hR.trans (hR.control h) (hR.runPasses hinner _ _)
  | procedure h _ => exact hinner _ s
  | binding h _ _ => exact hR.push s _
  | data _ => exact hR.push s item
  | primitiveFault h => exact hR.refl s
  | controlFault h => exact hR.refl s
  | falsyBinding h _ => exact hR.refl s
  | notFound h => exact hR.refl s
  | unknownSymbol => exact hR.refl s

/-- A list of elements keeps what the bodies keep that are run on the way. -/
theorem executeWith (hR : RunRelation mode R) (hinner : ∀ body s, R s (inner body s).state)
    (items : List Value) (s : State) : R s (executeWith mode inner items s).state := by
  induction items generalizing s with
  | nil => exact hR.refl s
  | cons item rest ih =>
    have hstep := hR.step hinner item s
    rw [StackScript.executeWith]
    rcases houtcome : StackScript.step mode inner item s with t | ⟨f, t⟩
    · rw [houtcome] at hstep
      exact hR.trans hstep (ih t)
    · rw [houtcome] at hstep
      dsimp only
      rcases hfatal : mode.isFatal f with _ | _
      · exact hR.trans (hR.trans hstep (hR.record t f hfatal)) (ih _)
      · exact hstep

/-- A body keeps the relation, whatever its budget is. -/
theorem enter {policy : Policy} (hR : RunRelation policy.mode R) (budget : Nat)
    (body : List Value) (s : State) : R s (enter policy budget body s).state := by
  induction budget generalizing body s with
  | zero => exact hR.refl s
  | succ budget ih =>
    have hbody := hR.nested (hR.executeWith ih body s.deeper)
    rw [StackScript.enter]
    rcases houtcome : StackScript.executeWith policy.mode (StackScript.enter policy budget) body
      s.deeper with t | ⟨f, t⟩ <;> rw [houtcome] at hbody <;> exact hbody

/-- A run keeps the relation. -/
theorem execute {policy : Policy} (hR : RunRelation policy.mode R) (items : List Value)
    (s : State) : R s (execute policy items s).state :=
  hR.executeWith (fun body s => hR.enter _ body s) items s

end RunRelation

/-! ## The depth of nesting -/

/-- Nothing that happens in a run leaves the depth changed. -/
theorem runRelation_depth (mode : Mode) : RunRelation mode fun s t => t.depth = s.depth where
  refl _ := rfl
  trans h₁ h₂ := h₂.trans h₁
  primitive _ := rfl
  control _ := rfl
  push _ _ := rfl
  record _ _ _ := rfl
  nested {s t} h := by
    change t.depth - 1 = s.depth
    rw [h]
    exact Nat.add_sub_cancel ..

/-- Every body leaves the depth as it found it, on whatever path it is left. -/
theorem enter_depth (policy : Policy) (budget : Nat) (body : List Value) (s : State) :
    (enter policy budget body s).state.depth = s.depth :=
  (runRelation_depth policy.mode).enter budget body s

/-- Every element leaves the depth as it found it. -/
theorem step_depth (policy : Policy) (budget : Nat) (item : Value) (s : State) :
    (step policy.mode (enter policy budget) item s).state.depth = s.depth :=
  (runRelation_depth policy.mode).step (enter_depth policy budget) item s

end StackScript
