import StackScript.Execution

/-!
# How often a counting loop runs

`runWithin` compares, runs its body, adds and compares again. How many passes that comes to can be
said beforehand, from the three integers alone (`Control.passCount`), and the loop is the same as
one that makes this number of passes and looks at nothing else (`runWithin_eq_runCounting`). Whether
it ends by going past its limit or by coming to an integer that does not fit in 64 bits makes no
difference: the limit fits, so what does not fit lies past it.

What the number is used for is always one of its consequences (`Control.lt_passCount_iff`): the pass
that comes after `k` others is made exactly if its integer is on the near side of the limit.
-/

namespace StackScript

/-! ## The number of passes -/

namespace Control

/-- How many integers `start`, `start + step`, `start + 2 * step`, … there are up to and including
`limit`, in the direction of the step. A step of zero has no direction. -/
def passCount (start step limit : Int) : Nat :=
  if 0 < step then
    if start ≤ limit then ((limit - start) / step).toNat + 1 else 0
  else if step < 0 then
    if limit ≤ start then ((start - limit) / -step).toNat + 1 else 0
  else 0

variable {start step limit : Int}

/-- How often a width goes into the distance between two integers, the first time being none. -/
theorem lt_count_iff {first last width : Int} (hwidth : 0 < width) (k : Nat) :
    (k < if first ≤ last then ((last - first) / width).toNat + 1 else 0) ↔
      k * width ≤ last - first := by
  have hnonneg : 0 ≤ k * width := Int.mul_nonneg (Int.natCast_nonneg k) (Int.le_of_lt hwidth)
  by_cases hle : first ≤ last
  · have hdiv : (k : Int) ≤ (last - first) / width ↔ k * width ≤ last - first :=
      Int.le_ediv_iff_mul_le hwidth
    have hquotient : 0 ≤ (last - first) / width := Int.ediv_nonneg (by omega) (Int.le_of_lt hwidth)
    rw [if_pos hle, ← hdiv]
    omega
  · rw [if_neg hle]
    omega

/-- After `k` passes there is another exactly if its integer is on the near side of the limit. -/
theorem lt_passCount_iff (k : Nat) :
    k < passCount start step limit ↔
      0 < step ∧ start + k * step ≤ limit ∨ step < 0 ∧ limit ≤ start + k * step := by
  unfold passCount
  rcases Int.lt_trichotomy step 0 with hneg | rfl | hpos
  · rw [if_neg (by omega), if_pos hneg, lt_count_iff (by omega), Int.mul_neg]
    omega
  · rw [if_neg (by omega), if_neg (by omega)]
    omega
  · rw [if_pos hpos, lt_count_iff hpos]
    omega

/-- After one pass, those are left that are made from the next integer on. -/
theorem passCount_add {count : Nat} (hcount : passCount start step limit = count + 1) :
    passCount (start + step) step limit = count := by
  have hiff : ∀ k, k < passCount (start + step) step limit ↔ k < count := by
    intro k
    have hshift : start + step + k * step = start + (k + 1 : Nat) * step := by
      rw [Int.natCast_add, Int.add_mul]
      omega
    rw [lt_passCount_iff, hshift, ← lt_passCount_iff, hcount]
    exact Nat.add_lt_add_iff_right
  exact Nat.le_antisymm (Nat.le_of_not_lt fun h => Nat.lt_irrefl _ ((hiff _).mp h))
    (Nat.le_of_not_lt fun h => Nat.lt_irrefl _ ((hiff _).mpr h))

/-- There is no pass exactly if the first integer is beyond the limit already. -/
theorem passCount_eq_zero_iff :
    passCount start step limit = 0 ↔
      ¬ (0 < step ∧ start ≤ limit ∨ step < 0 ∧ limit ≤ start) := by
  have hfirst : 0 < passCount start step limit ↔ _ := lt_passCount_iff 0
  rw [Int.natCast_zero, Int.zero_mul, Int.add_zero] at hfirst
  rw [← hfirst, Nat.not_lt, Nat.le_zero]

end Control

section Within

variable {current step limit : Int64}

/-- A counting loop has no pass left exactly when it does not make one for the integer it has come
to. -/
theorem passCount_eq_zero_iff_isWithin :
    Control.passCount current.toInt step.toInt limit.toInt = 0 ↔
      ¬ isWithin current step limit = true := by
  rw [Control.passCount_eq_zero_iff, isWithin, Bool.or_eq_true, Bool.and_eq_true, Bool.and_eq_true]
  simp only [decide_eq_true_eq]

/-- No pass is left when the next integer does not fit in 64 bits: the limit fits, and the integers
have gone past it. -/
theorem passCount_of_overflow (hover : Number.int64? (current.toInt + step.toInt) = none) :
    Control.passCount (current.toInt + step.toInt) step.toInt limit.toInt = 0 := by
  have hout : ¬ (Int64.minValue.toInt ≤ current.toInt + step.toInt ∧
      current.toInt + step.toInt ≤ Int64.maxValue.toInt) := by
    intro hfits
    rw [Number.int64?, if_pos hfits] at hover
    cases hover
  rw [Int64.toInt_minValue, Int64.toInt_maxValue] at hout
  have hlow := current.le_toInt
  have hhigh := current.toInt_lt
  have hlimitLow := limit.le_toInt
  have hlimitHigh := limit.toInt_lt
  rw [Control.passCount_eq_zero_iff]
  omega

end Within

/-! ## The loop with its passes counted beforehand -/

/-- Runs a body `count` times; before each run the next integer of a progression is pushed. -/
def runCounting (enter : Entry) (body : List Value) (step : Int) : Nat → Int → State → Outcome
  | 0, _, s => .done s
  | count + 1, current, s =>
    match enter body (s.push (.number (.int (.ofInt current)))) with
    | .done s => runCounting enter body step count (current + step) s
    | .raised f s => .raised f s

/-- **A counting loop makes the passes that can be counted beforehand.** -/
theorem runWithin_eq_runCounting (enter : Entry) (body : List Value) (step limit current : Int64)
    (s : State) :
    runWithin enter body step limit current s =
      runCounting enter body step.toInt
        (Control.passCount current.toInt step.toInt limit.toInt) current.toInt s := by
  induction hcount : Control.passCount current.toInt step.toInt limit.toInt
    generalizing current s with
  | zero =>
    rw [runWithin, dif_neg (passCount_eq_zero_iff_isWithin.mp hcount)]
    rfl
  | succ count ih =>
    -- the loop compares, and finds that a pass is left
    have hwithin : isWithin current step limit = true := by
      rw [← Decidable.not_not (p := _ = true), ← passCount_eq_zero_iff_isWithin, hcount]
      exact Nat.succ_ne_zero count
    have hnext := Control.passCount_add hcount
    rw [runWithin, dif_pos hwithin, runCounting, Int64.ofInt_toInt]
    rcases enter body (s.push (.number (.int current))) with t | ⟨f, t⟩
    · dsimp only
      split
      case h_1 next hfits =>
        have hsum := Number.toInt_of_int64? hfits
        rw [← hsum] at hnext ⊢
        exact ih next t hnext
      case h_2 hover =>
        -- the next integer does not fit, and no pass would be made for it
        rw [passCount_of_overflow hover] at hnext
        subst hnext
        rfl
    · rfl

/-- The passes of a counting loop. -/
theorem runPasses_counting (enter : Entry) (body : List Value) (start step limit : Int64)
    (s : State) :
    runPasses enter (.counting body start step limit) s =
      runCounting enter body step.toInt
        (Control.passCount start.toInt step.toInt limit.toInt) start.toInt s :=
  runWithin_eq_runCounting enter body step limit start s

end StackScript
