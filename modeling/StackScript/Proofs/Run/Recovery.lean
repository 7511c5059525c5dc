import StackScript.Proofs.Run.Step

/-!
# Faults that are recovered from

A fault that the mode does not take for fatal is recorded, and the run goes on. That is sound only
if the element that raised it has done nothing before, and this is what is proved here
(`recoverable_fault_changes_nothing`).

For primitives and names it is a matter of the single step (`StackScript.Proofs.Run.Step`). For
control operators and procedures it rests on whole runs: a body that is run records its recoverable
faults itself and passes on fatal ones only (`OnlyFatal`), so a recoverable fault that comes out of
a control operator was raised before its first body was entered.
-/

namespace StackScript

/-! ## What comes out of a body -/

/-- Every fault that a way of running bodies passes on is fatal. -/
def OnlyFatal (mode : Mode) (inner : Entry) : Prop :=
  ∀ {body s f t}, inner body s = .raised f t → mode.isFatal f = true

/-- A list of elements passes on fatal faults only, whatever comes out of the bodies in it. -/
theorem executeWith_raised {mode : Mode} {inner : Entry} {items : List Value} {s t : State}
    {f : Fault} (h : executeWith mode inner items s = .raised f t) : mode.isFatal f = true := by
  induction items generalizing s with
  | nil => cases h
  | cons item rest ih =>
    rw [executeWith] at h
    rcases hstep : step mode inner item s with u | ⟨g, u⟩ <;> rw [hstep] at h <;> dsimp only at h
    · exact ih h
    · rcases hfatal : mode.isFatal g with _ | _
      · rw [hfatal, if_neg Bool.false_ne_true] at h
        exact ih h
      · rw [hfatal, if_pos rfl] at h
        cases h
        exact hfatal

/-- Bodies pass on fatal faults only: the limit on nesting is fatal, and so is all that a list of
elements passes on. -/
theorem onlyFatal_enter (policy : Policy) (budget : Nat) :
    OnlyFatal policy.mode (enter policy budget) := by
  intro body s f t h
  cases budget with
  | zero =>
    cases h
    rfl
  | succ budget =>
    rw [enter] at h
    rcases hbody : executeWith policy.mode (enter policy budget) body s.deeper with u | ⟨g, u⟩ <;>
      rw [hbody] at h <;> cases h
    exact executeWith_raised hbody

namespace OnlyFatal

variable {mode : Mode} {inner : Entry} {s t : State} {f : Fault}

theorem runCounting (hinner : OnlyFatal mode inner) {body : List Value} {d current : Int}
    {count : Nat} (h : runCounting inner body d count current s = .raised f t) :
    mode.isFatal f = true := by
  induction count generalizing current s with
  | zero => cases h
  | succ count ih =>
    rw [StackScript.runCounting] at h
    rcases hbody : inner body (s.push (.number (.int (.ofInt current)))) with u | ⟨g, u⟩ <;>
      rw [hbody] at h
    · exact ih h
    · cases h
      exact hinner hbody

theorem runEach (hinner : OnlyFatal mode inner) {body values : List Value}
    (h : runEach inner body values s = .raised f t) : mode.isFatal f = true := by
  induction values generalizing s with
  | nil => cases h
  | cons v rest ih =>
    rw [StackScript.runEach] at h
    rcases hbody : inner body (s.push v) with u | ⟨g, u⟩ <;> rw [hbody] at h
    · exact ih h
    · cases h
      exact hinner hbody

/-- Once a control operator runs its passes, only fatal faults come out of it. -/
theorem runPasses (hinner : OnlyFatal mode inner) {passes : Passes}
    (h : runPasses inner passes s = .raised f t) : mode.isFatal f = true := by
  cases passes with
  | none => cases h
  | once body => exact hinner h
  | counting body start d limit =>
    rw [runPasses_counting] at h
    exact hinner.runCounting h
  | each body values => exact hinner.runEach h

end OnlyFatal

/-! ## What comes out of an element -/

/-- A recoverable fault of an element leaves the state as it was. If the element is a control
operator, it is its operands that are refused. -/
theorem step_recoverable {mode : Mode} {inner : Entry} (hinner : OnlyFatal mode inner)
    {item : Value} {s t : State} {f : Fault} (hf : mode.isFatal f = false)
    (h : step mode inner item s = .raised f t) :
    t = s ∧ ∀ c, item = .operator (.control c) → c.prepare s.machine = .error f := by
  have hcase := step_cases mode inner item s
  rw [h] at hcase
  generalize houtcome : Outcome.raised f t = outcome at hcase
  cases hcase with
  | primitive _ => cases houtcome
  | binding _ _ _ => cases houtcome
  | data _ => cases houtcome
  | control hprepare =>
    -- the passes have begun, so the fault would be fatal
    rw [hinner.runPasses houtcome.symm] at hf
    cases hf
  | procedure _ _ =>
    -- so would one that comes out of a procedure
    rw [hinner houtcome.symm] at hf
    cases hf
  | controlFault hprepare =>
    cases houtcome
    refine ⟨rfl, fun c hc => ?_⟩
    cases hc
    exact hprepare
  | primitiveFault _ =>
    cases houtcome
    exact ⟨rfl, fun c hc => by cases hc⟩
  | falsyBinding _ _ =>
    cases houtcome
    exact ⟨rfl, fun c hc => by cases hc⟩
  | notFound _ =>
    cases houtcome
    exact ⟨rfl, fun c hc => by cases hc⟩
  | unknownSymbol =>
    cases houtcome
    exact ⟨rfl, fun c hc => by cases hc⟩

/-- **A recoverable fault changes nothing.** In every state, if an element raises a fault that the
mode does not take for fatal, then the state it leaves behind, both stacks, the store, the sink, the
recorded faults and the depth, is the state before, and execution goes on with the next element
after recording that one fault. The same holds of an operator that the host calls. And if the
operator is a control operator, the fault came before any body was run: carrying the operator out
up to its first body already raises it. -/
theorem recoverable_fault_changes_nothing (policy : Policy) (s after : State) (f : Fault)
    (hf : policy.mode.isFatal f = false) :
    (∀ item, step policy.mode (enterAt policy s) item s = .raised f after →
      after = s ∧ ∀ rest, execute policy (item :: rest) s = execute policy rest (s.record f)) ∧
    (∀ op, call policy op s = .raised f after → after = s) ∧
    (∀ c, call policy (.control c) s = .raised f after →
      c.perform s.machine = (.error f, s.machine)) := by
  have hinner : OnlyFatal policy.mode (enterAt policy s) := onlyFatal_enter policy _
  refine ⟨fun item h => ?_, fun op h => ?_, fun c h => ?_⟩
  · obtain ⟨rfl, -⟩ := step_recoverable hinner hf h
    refine ⟨rfl, fun rest => ?_⟩
    rw [execute, executeWith, h]
    dsimp only
    rw [hf, if_neg Bool.false_ne_true]
    rfl
  · have hstep : step policy.mode (enterAt policy s) (.operator op) s = .raised f after := h
    exact (step_recoverable hinner hf hstep).1
  · have hstep : step policy.mode (enterAt policy s) (.operator (.control c)) s =
        .raised f after := h
    have hprepare := (step_recoverable hinner hf hstep).2 c rfl
    rw [perform_control, hprepare]
    rfl

/-- A loop over an array that holds itself: refused, in the hardened mode and with no body left that
may be opened, before the array and the body are taken. -/
theorem recoverable_fault_of_cyclic_loop :
    let array : Value := .array ⟨0⟩
    let s : State :=
      ⟨⟨[.proc [.operator (.primitive .pop)], array], ⟨[⟨0⟩], 1⟩, ⟨#[#[array]], #[.empty]⟩,
        .silent⟩, #[.noScope], 2⟩
    let f : Fault := .wrongKind (.control .forAll) .numberArray .array
    Mode.isFatal .hardened f = false ∧
      call ⟨.hardened, 2⟩ (.control .forAll) s = .raised f s ∧
      ∀ rest, execute ⟨.hardened, 2⟩ (.operator (.control .forAll) :: rest) s =
        execute ⟨.hardened, 2⟩ rest (s.record f) := by
  intro array s f
  have hnumbers : array.isNumberArray s.machine.store = false := by
    simp [array, s, Value.isNumberArray, Store.array, Value.isNumber]
  have hprepare : Control.forAll.prepare s.machine = .error f := by
    change (if array.isNumberArray s.machine.store then _ else Except.error f) = _
    rw [hnumbers, if_neg Bool.false_ne_true]
  have hcall : call ⟨.hardened, 2⟩ (.control .forAll) s = .raised f s := by
    rw [call, invoke_control, hprepare]
  have hlaw := recoverable_fault_changes_nothing ⟨.hardened, 2⟩ s s f rfl
  exact ⟨rfl, hcall, (hlaw.1 (.operator (.control .forAll)) hcall).2⟩

end StackScript
