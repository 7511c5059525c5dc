import StackScript.Proofs.Run.Limit
import StackScript.Proofs.Run.Recovery

/-!
# What a loop goes through

Seen from outside, a loop is a row of runs of its body: before each of them one value is pushed on
whatever the run before has left behind, and the row ends with the values or with the first run that
raises a fault (`Sweeps`). The values are settled when the loop begins, so that there is nothing a
body could do to them.

* A counting loop goes through an arithmetic progression: through the integers `start + k * step`,
  counted over all integers, that lie between its start and its limit (`for_runs_progression`).
* A loop over an array goes through the elements that the array has when the loop begins, if all of
  them are numbers (`forAll_runs_elements`).

Both are loops over a list of values, `runEach`, and it is of this one loop that the row of runs is
established, by induction on the values.
-/

namespace StackScript

/-! ## Rows of runs -/

/-- The outcome comes about by running the body for the values in their order: `states k` is the
state after `k` runs, and the next run begins with the value at `k` pushed on it. Either there is a
run for every value, or a run raises a fault and is the last. -/
def Sweeps (inner : Entry) (body values : List Value) (s : State) (outcome : Outcome) : Prop :=
  ∃ (runs : Nat) (states : Nat → State), runs ≤ values.length ∧ states 0 = s ∧
    (∀ k (_ : k < values.length), k < runs →
      inner body ((states k).push values[k]) = .done (states (k + 1))) ∧
    (runs = values.length ∧ outcome = .done (states runs) ∨
      ∃ (_ : runs < values.length) (f : Fault) (t : State),
        inner body ((states runs).push values[runs]) = .raised f t ∧ outcome = .raised f t)

namespace Sweeps

variable {inner : Entry} {body rest : List Value} {v : Value} {s t : State} {outcome : Outcome}

/-- Where there are no values there are no runs. -/
theorem nil : Sweeps inner body [] s (.done s) :=
  ⟨0, fun _ => s, Nat.le_refl 0, rfl, fun k hk => absurd hk (Nat.not_lt_zero k), .inl ⟨rfl, rfl⟩⟩

/-- The first run ends, and the row goes on from there. -/
theorem cons (hbody : inner body (s.push v) = .done t) (h : Sweeps inner body rest t outcome) :
    Sweeps inner body (v :: rest) s outcome := by
  obtain ⟨runs, states, hruns, hfirst, hpass, hend⟩ := h
  refine ⟨runs + 1, fun k => k.casesOn s states, Nat.succ_le_succ hruns, rfl, ?_, ?_⟩
  · intro k hk hkruns
    cases k with
    | zero => exact hbody.trans (congrArg Outcome.done hfirst.symm)
    | succ k => exact hpass k (Nat.lt_of_succ_lt_succ hk) (Nat.lt_of_succ_lt_succ hkruns)
  · rcases hend with ⟨hall, hdone⟩ | ⟨hlt, f, u, hraised, houtcome⟩
    · exact .inl ⟨congrArg (· + 1) hall, hdone⟩
    · exact .inr ⟨Nat.succ_lt_succ hlt, f, u, hraised, houtcome⟩

/-- The first run raises a fault, and it is the last. -/
theorem stop {f : Fault} (hbody : inner body (s.push v) = .raised f t) :
    Sweeps inner body (v :: rest) s (.raised f t) :=
  ⟨0, fun _ => s, Nat.zero_le _, rfl, fun k _ hk => absurd hk (Nat.not_lt_zero k),
    .inr ⟨Nat.succ_pos _, f, t, hbody, rfl⟩⟩

end Sweeps

/-- A loop over values is a row of runs. -/
theorem sweeps_runEach (inner : Entry) (body values : List Value) (s : State) :
    Sweeps inner body values s (runEach inner body values s) := by
  induction values generalizing s with
  | nil => exact .nil
  | cons v rest ih =>
    rw [runEach]
    rcases hbody : inner body (s.push v) with t | ⟨f, t⟩
    · exact .cons hbody (ih t)
    · exact .stop hbody

/-! ## Counting loops -/

/-- The first integers of a progression, as values. -/
def progression (step : Int) (count : Nat) (current : Int) : List Value :=
  (List.range count).map fun k : Nat => .number (.int (.ofInt (current + k * step)))

@[simp] theorem length_progression (step : Int) (count : Nat) (current : Int) :
    (progression step count current).length = count := by
  rw [progression, List.length_map, List.length_range]

/-- After its first integer a progression goes on from the next. -/
theorem progression_succ (step : Int) (count : Nat) (current : Int) :
    progression step (count + 1) current =
      .number (.int (.ofInt current)) :: progression step count (current + step) := by
  have hshift : ∀ k : Nat, current + (k + 1 : Nat) * step = current + step + k * step := by
    intro k
    rw [Int.natCast_add, Int.add_mul]
    omega
  rw [progression, progression, List.range_succ_eq_map, List.map_cons, List.map_map,
    Int.natCast_zero, Int.zero_mul, Int.add_zero]
  simp only [Function.comp_def, hshift]

/-- A counting loop is the loop over its integers. -/
theorem runCounting_eq_runEach (inner : Entry) (body : List Value) (step : Int) (count : Nat)
    (current : Int) (s : State) :
    runCounting inner body step count current s =
      runEach inner body (progression step count current) s := by
  induction count generalizing current s with
  | zero => rfl
  | succ count ih =>
    rw [runCounting, progression_succ, runEach]
    rcases inner body (s.push (.number (.int (.ofInt current)))) with t | ⟨f, t⟩
    · exact ih (current + step) t
    · rfl

/-- An integer that lies between two others in the direction of a step, both included. -/
def IsOnWay (start step limit c : Int) : Prop :=
  0 < step ∧ start ≤ c ∧ c ≤ limit ∨ step < 0 ∧ limit ≤ c ∧ c ≤ start

/-- The pass after `k` others is made exactly if its integer is on the way to the limit. -/
theorem lt_passCount_iff_isOnWay {start step limit : Int} (k : Nat) :
    k < Control.passCount start step limit ↔ IsOnWay start step limit (start + k * step) := by
  have hup : 0 < step → 0 ≤ k * step := fun h =>
    Int.mul_nonneg (Int.natCast_nonneg k) (Int.le_of_lt h)
  have hdown : step < 0 → k * step ≤ 0 := fun h =>
    Int.mul_nonpos_of_nonneg_of_nonpos (Int.natCast_nonneg k) (Int.le_of_lt h)
  rw [Control.lt_passCount_iff, IsOnWay]
  omega

/-- What is on the way between two 64-bit integers fits in 64 bits. -/
theorem toInt_ofInt_of_isOnWay {start limit : Int64} {step c : Int}
    (h : IsOnWay start.toInt step limit.toInt c) : (Int64.ofInt c).toInt = c := by
  have hstart := And.intro start.le_toInt start.toInt_lt
  have hlimit := And.intro limit.le_toInt limit.toInt_lt
  have hbounds : -2 ^ 63 ≤ c ∧ c < 2 ^ 63 := by
    rw [IsOnWay] at h
    omega
  exact Int64.toInt_ofInt_of_le hbounds.1 hbounds.2

section Loops

variable (policy : Policy) {s : State}

/-- A loop that has begun is stopped by fatal faults only. -/
theorem isFatal_of_call_control {policy : Policy} {c : Control} {passes : Passes} {m : Machine}
    {f : Fault} {t : State} (hprepare : c.prepare s.machine = .ok (passes, m))
    (hcall : call policy (.control c) s = .raised f t) : policy.mode.isFatal f = true := by
  rw [call, invoke_control, hprepare] at hcall
  exact OnlyFatal.runPasses (onlyFatal_enter policy _) hcall

/-- A counting loop with a direction takes its operands away. -/
theorem prepare_forLoop {m : Machine} {body : List Value} {start step limit : Int64}
    {rest : Operands}
    (hoperands : m.operands =
      .proc body :: .number (.int limit) :: .number (.int step) :: .number (.int start) :: rest)
    (hstep : step.toInt ≠ 0) :
    Control.forLoop.prepare m =
      .ok (.counting body start step limit, { m with operands := rest }) := by
  rw [Control.prepare, Control.prepareFor, hoperands]
  exact if_neg hstep

/-- **A counting loop runs its arithmetic progression.** For any start, any limit and any step but
zero, the loop takes its four operands away and runs the body for `start + k * step` with `k` going
up from 0: for all those `k` for which the sum, over the integers, lies between start and limit, and
for no others. Each time the integer is pushed, on whatever stack the body has left behind, and
nothing but a fatal fault of the body stops the loop before its end. -/
theorem for_runs_progression {body : List Value} {start step limit : Int64} {rest : Operands}
    (hoperands : s.machine.operands =
      .proc body :: .number (.int limit) :: .number (.int step) :: .number (.int start) :: rest)
    (hstep : step.toInt ≠ 0) :
    ∃ values : List Value,
      (∀ k : Nat, k < values.length ↔
        IsOnWay start.toInt step.toInt limit.toInt (start.toInt + k * step.toInt)) ∧
      (∀ k (_ : k < values.length), ∃ c : Int64,
        c.toInt = start.toInt + k * step.toInt ∧ values[k] = .number (.int c)) ∧
      Sweeps (enterAt policy s) body values (s.withOperands rest)
        (call policy (.control .forLoop) s) ∧
      ∀ f t, call policy (.control .forLoop) s = .raised f t → policy.mode.isFatal f = true := by
  have hprepare := prepare_forLoop hoperands hstep
  have honWay : ∀ k : Nat, k < Control.passCount start.toInt step.toInt limit.toInt ↔
      IsOnWay start.toInt step.toInt limit.toInt (start.toInt + k * step.toInt) :=
    fun k => lt_passCount_iff_isOnWay k
  refine ⟨progression step.toInt (Control.passCount start.toInt step.toInt limit.toInt) start.toInt,
    fun k => ?_, fun k hk => ?_, ?_, fun f t => isFatal_of_call_control hprepare⟩
  · rw [length_progression]
    exact honWay k
  · rw [length_progression] at hk
    refine ⟨.ofInt (start.toInt + k * step.toInt), toInt_ofInt_of_isOnWay ((honWay k).mp hk), ?_⟩
    simp only [progression, List.getElem_map, List.getElem_range]
  · rw [call, invoke_control, hprepare]
    dsimp only
    rw [runPasses_counting, runCounting_eq_runEach]
    exact sweeps_runEach _ body _ (s.withOperands rest)

/-- Near the end of the 64-bit integers: the loop runs for the greatest one and then for no other,
though its body throws the stack away each time. -/
theorem for_runs_progression_to_greatest :
    let int n := Value.number (.int n)
    let body := [Value.operator (.primitive .clear), .bool true]
    let start : Int64 := 9223372036854775805
    let s := (State.fresh .silent).withOperands
      [.proc body, int Int64.maxValue, int 2, int start, .bool false]
    (∃ values : List Value,
      (∀ k : Nat, k < values.length ↔ IsOnWay start.toInt 2 Int64.maxValue.toInt
        (start.toInt + k * 2)) ∧
      Sweeps (enterAt ⟨.hardened, 1⟩ s) body values (s.withOperands [.bool false])
        (call ⟨.hardened, 1⟩ (.control .forLoop) s)) ∧
      call ⟨.hardened, 1⟩ (.control .forLoop) s = .done (s.withOperands [.bool true]) := by
  intro int body start s
  obtain ⟨values, honWay, -, hsweeps, -⟩ :=
    for_runs_progression ⟨.hardened, 1⟩ (s := s) rfl (by decide : (2 : Int64).toInt ≠ 0)
  refine ⟨⟨values, honWay, hsweeps⟩, ?_⟩
  rw [call, invoke_control, prepare_forLoop rfl (by decide)]
  dsimp only
  rw [runPasses_counting]
  rfl

/-! ## Loops over an array -/

/-- What it means that all elements are numbers. -/
theorem isNumberArray_iff {store : Store} {r : ArrayRef} :
    (Value.array r).isNumberArray store = true ↔ ∀ v ∈ store.array r, ∃ n, v = .number n := by
  rw [Value.isNumberArray, Array.all_eq_true']
  refine forall₂_congr fun v _ => ?_
  cases v <;> simp [Value.isNumber]

/-- A loop over an array of numbers takes its operands away and keeps the elements. -/
theorem prepare_forAll {m : Machine} {body : List Value} {r : ArrayRef} {rest : Operands}
    (hoperands : m.operands = .proc body :: .array r :: rest)
    (hnumbers : ∀ v ∈ m.store.array r, ∃ n, v = .number n) :
    Control.forAll.prepare m =
      .ok (.each body (m.store.array r).toList, { m with operands := rest }) := by
  rw [Control.prepare, Control.prepareForAll, hoperands]
  exact if_pos (isNumberArray_iff.mpr hnumbers)

/-- **A loop over an array runs for the elements it had.** If the elements that the array has when
the loop begins are numbers, the loop takes its two operands away and runs the body once for each
of these elements, in their order, whatever the body does to the array meanwhile, and nothing but a
fatal fault of the body stops it. If one of the elements is something else, the operands are refused
and nothing is changed. -/
theorem forAll_runs_elements {top : Value} {r : ArrayRef} {rest : Operands}
    (hoperands : s.machine.operands = top :: .array r :: rest) :
    (∀ body, top = .proc body →
      (∀ v ∈ s.machine.store.array r, ∃ n, v = .number n) →
        Sweeps (enterAt policy s) body (s.machine.store.array r).toList (s.withOperands rest)
          (call policy (.control .forAll) s) ∧
        ∀ f t, call policy (.control .forAll) s = .raised f t → policy.mode.isFatal f = true) ∧
      ((∃ v ∈ s.machine.store.array r, ∀ n, v ≠ .number n) →
        call policy (.control .forAll) s =
          .raised (.wrongKind (.control .forAll) .numberArray .array) s) := by
  constructor
  · rintro body rfl hnumbers
    have hprepare := prepare_forAll hoperands hnumbers
    refine ⟨?_, fun f t => isFatal_of_call_control hprepare⟩
    rw [call, invoke_control, hprepare]
    exact sweeps_runEach _ body _ (s.withOperands rest)
  · rintro ⟨v, hv, hnot⟩
    have hrefused : ¬ (Value.array r).isNumberArray s.machine.store = true := by
      intro hnumbers
      obtain ⟨n, hn⟩ := isNumberArray_iff.mp hnumbers v hv
      exact hnot n hn
    have hprepare : Control.forAll.prepare s.machine =
        .error (.wrongKind (.control .forAll) .numberArray .array) := by
      rw [Control.prepare, Control.prepareForAll, hoperands]
      exact if_neg hrefused
    rw [call, invoke_control, hprepare]

/-- A body that stores the array in its own second slot: the loop has both of the numbers that the
array held, one after the other, and only the next loop over the array is refused. -/
theorem forAll_runs_elements_of_overwritten :
    let int n := Value.number (.int n)
    let r : ArrayRef := ⟨0⟩
    let body := [.array r, int 1, .array r, .operator (.primitive .put),
      .operator (.primitive .pop)]
    let s : State := ⟨⟨[.proc body, .array r], ⟨[⟨0⟩], 1⟩, ⟨#[#[int 1, int 2]], #[.empty]⟩,
      .silent⟩, #[], 0⟩
    let t : State := ⟨⟨[.proc body, .array r], ⟨[⟨0⟩], 1⟩, ⟨#[#[int 1, .array r]], #[.empty]⟩,
      .silent⟩, #[], 0⟩
    Sweeps (enterAt ⟨.compatible, 1⟩ s) body [int 1, int 2] (s.withOperands [])
        (call ⟨.compatible, 1⟩ (.control .forAll) s) ∧
      call ⟨.compatible, 1⟩ (.control .forAll) s = .done (t.withOperands [int 2, int 1]) ∧
      call ⟨.compatible, 1⟩ (.control .forAll) t =
        .raised (.wrongKind (.control .forAll) .numberArray .array) t := by
  intro int r body s t
  have hnumbers : ∀ v ∈ s.machine.store.array r, ∃ n, v = .number n := by
    intro v hv
    simp [s, Store.array, r, int] at hv
    rcases hv with rfl | rfl <;> exact ⟨_, rfl⟩
  have hself : ∃ v ∈ t.machine.store.array r, ∀ n, v ≠ .number n :=
    ⟨.array r, by simp [t, Store.array, r], fun n => by simp⟩
  refine ⟨((forAll_runs_elements ⟨.compatible, 1⟩ (s := s) rfl).1 body rfl hnumbers).1, ?_,
    (forAll_runs_elements ⟨.compatible, 1⟩ (s := t) rfl).2 hself⟩
  rw [call, invoke_control, prepare_forAll rfl hnumbers]
  rfl

end Loops

end StackScript
