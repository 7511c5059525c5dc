import StackScript.Proofs.Operator.Effect
import StackScript.Proofs.Operator.Refusal
import StackScript.Proofs.Run.Step

/-!
# At the limit on nesting

Where as many bodies are open as there may be, no further one is entered. A name that is bound to a
procedure is refused as it stands. A control operator is not: it has checked its operands and taken
them, and a loop has pushed the value of its first pass, before its body turns out to be one too
many, and nothing puts the operands back. So of all faults that an operator can answer with there,
the limit itself is the one that leaves the operand stack changed (`limit_takes_operands`).
-/

namespace StackScript

/-- The values that are pushed before the first of the passes, if there is a first pass. -/
def Passes.first? : Passes → Option Operands
  | .none => Option.none
  | .once _ => some []
  | .counting _ start step limit =>
    if Control.passCount start.toInt step.toInt limit.toInt = 0 then Option.none
    else some [.number (.int start)]
  | .each _ values => values.head?.map fun v => [v]

/-- Before a pass at most one value is pushed. -/
theorem Passes.length_first? {passes : Passes} {pushed : Operands}
    (h : passes.first? = some pushed) : pushed.length ≤ 1 := by
  cases passes with
  | none => cases h
  | once body =>
    cases h
    exact Nat.zero_le 1
  | counting body start step limit =>
    rw [first?] at h
    split at h
    · cases h
    · cases h
      exact Nat.le_refl 1
  | each body values =>
    obtain ⟨v, -, rfl⟩ := Option.map_eq_some_iff.mp h
    exact Nat.le_refl 1

/-- A control operator takes as many operands as the catalogue says. -/
theorem Control.Effect.operands_eq {m : Machine} {c : Control} {passes : Passes} {rest : Operands}
    (h : Effect m c passes rest) :
    rest = m.operands.drop c.minOperands ∧ m.operands.length = c.minOperands + rest.length := by
  cases h with
  | ifTrue hops | ifElse hops | forLoop hops _ | forAll hops _ =>
    rw [hops]
    exact ⟨rfl, by simp [minOperands]; omega⟩

namespace State

/-- The same state with other operands. -/
def withOperands (s : State) (operands : Operands) : State :=
  { s with machine := { s.machine with operands := operands } }

end State

section Refused

variable {policy : Policy} {s : State}

/-- At the limit every body is refused. -/
theorem enterAt_of_limit (h : policy.maxDepth ≤ s.depth) :
    enterAt policy s = fun _ t => .raised (.tooDeep policy.maxDepth) t := by
  funext body t
  rw [enterAt, Nat.sub_eq_zero_of_le h, enter]

/-- Where every body is refused, passes end at the first one, and before it something may have been
pushed. -/
theorem runPasses_refused (f : Fault) (passes : Passes) (s : State) :
    runPasses (fun _ t => .raised f t) passes s =
      match passes.first? with
      | none => .done s
      | some pushed => .raised f (s.withOperands (pushed ++ s.machine.operands)) := by
  cases passes with
  | none => rfl
  | once body => rfl
  | counting body start step limit =>
    rw [runPasses_counting, Passes.first?]
    rcases Control.passCount start.toInt step.toInt limit.toInt with _ | count
    · rfl
    · rw [runCounting, Int64.ofInt_toInt, if_neg (Nat.succ_ne_zero count)]
      rfl
  | each body values => cases values <;> rfl

/-- A control operator that has to enter a body at the limit is stopped there. It has taken its
operands by then, and pushed what is pushed before a first pass. -/
theorem call_control_of_limit {c : Control} {passes : Passes} {m : Machine} {pushed : Operands}
    (h : policy.maxDepth ≤ s.depth) (hprepare : c.prepare s.machine = .ok (passes, m))
    (hfirst : passes.first? = some pushed) :
    call policy (.control c) s = .raised (.tooDeep policy.maxDepth)
      (s.withOperands (pushed ++ s.machine.operands.drop c.minOperands)) := by
  obtain ⟨rest, heffect, rfl⟩ := Control.effect_of_prepare hprepare
  rw [call, invoke_control, hprepare, enterAt_of_limit h]
  dsimp only
  rw [runPasses_refused, hfirst, ← heffect.operands_eq.1]
  rfl

/-- What is pushed before a first pass is less than what the operator has taken. -/
theorem length_operands_of_limit {c : Control} {passes : Passes} {m : Machine} {pushed : Operands}
    (hprepare : c.prepare s.machine = .ok (passes, m)) (hfirst : passes.first? = some pushed) :
    (pushed ++ s.machine.operands.drop c.minOperands).length < s.machine.operands.length := by
  obtain ⟨rest, heffect, -⟩ := Control.effect_of_prepare hprepare
  obtain ⟨hrest, hlength⟩ := heffect.operands_eq
  have hpushed := Passes.length_first? hfirst
  have htaken : 2 ≤ c.minOperands := by cases c <;> decide
  rw [List.length_append, ← hrest, hlength]
  omega

/-- At the limit a call changes nothing if it is refused, unless by the limit itself. -/
theorem eq_of_call_of_limit {op : Operator} {f : Fault} {t : State}
    (h : policy.maxDepth ≤ s.depth) (hcall : call policy op s = .raised f t) :
    t = s ↔ f ≠ .tooDeep policy.maxDepth := by
  cases op with
  | primitive p =>
    rw [call, invoke_primitive] at hcall
    rcases happly : p.apply policy.mode s.machine with g | m <;> rw [happly] at hcall <;>
      cases hcall
    exact iff_of_true rfl ((Primitive.refuses_apply p _ _).ne_tooDeep happly _)
  | control c =>
    rcases hprepare : c.prepare s.machine with g | ⟨passes, m⟩
    · rw [call, invoke_control, hprepare] at hcall
      cases hcall
      exact iff_of_true rfl ((Control.refuses_prepare c _).ne_tooDeep hprepare _)
    rcases hfirst : passes.first? with _ | pushed
    · rw [call, invoke_control, hprepare, enterAt_of_limit h] at hcall
      dsimp only at hcall
      rw [runPasses_refused, hfirst] at hcall
      cases hcall
    · have hlength := length_operands_of_limit hprepare hfirst
      rw [call_control_of_limit h hprepare hfirst] at hcall
      cases hcall
      refine iff_of_false (fun hsame => ?_) (fun hne => hne rfl)
      have hoperands := congrArg (fun s : State => s.machine.operands.length) hsame
      exact Nat.ne_of_lt hlength hoperands

/-- **The limit takes operands.** At the limit on nesting:

* a control operator whose operands are in order and that has to enter a body raises the fault of
  exceeding the limit, and then its operands are gone: on the stack is what lay below them, under
  the value of a first pass if there is one, and that is less than before;
* no other fault that an operator answers with has changed anything;
* a name that is bound to a procedure is refused with everything as it was. -/
theorem limit_takes_operands (policy : Policy) (s : State) (h : policy.maxDepth ≤ s.depth) :
    (∀ (c : Control) (passes : Passes) (m : Machine) (pushed : Operands),
      c.prepare s.machine = .ok (passes, m) → passes.first? = some pushed →
        let left := pushed ++ s.machine.operands.drop c.minOperands
        call policy (.control c) s = .raised (.tooDeep policy.maxDepth) (s.withOperands left) ∧
          left.length < s.machine.operands.length) ∧
      (∀ op f t, call policy op s = .raised f t → (t = s ↔ f ≠ .tooDeep policy.maxDepth)) ∧
      ∀ n body, s.machine.scopes.lookup? s.machine.store n.text = some (.proc body) →
        (policy.mode.skipsFalsyBindings && body.isEmpty) = false →
          step policy.mode (enterAt policy s) (.call n) s =
            .raised (.tooDeep policy.maxDepth) s := by
  refine ⟨fun c passes m pushed hprepare hfirst => ?_, fun op f t => eq_of_call_of_limit h,
    fun n body hlookup hbound => ?_⟩
  · exact ⟨call_control_of_limit h hprepare hfirst, length_operands_of_limit hprepare hfirst⟩
  · have hfalsy : ¬ (policy.mode.skipsFalsyBindings &&
        (Value.proc body).isFalsy s.machine.store) = true := by
      rw [Value.isFalsy, hbound]
      exact Bool.false_ne_true
    rw [step, callName, hlookup]
    dsimp only
    rw [if_neg hfalsy, enterAt_of_limit h]

/-- Of a loop that may not run its body, the integer of the first pass is left and the operands are
not. -/
theorem limit_takes_operands_of_loop :
    let int n := Value.number (.int n)
    let s := (State.fresh .silent).withOperands [.proc [], int 3, int 1, int 0, .bool true]
    (⟨.hardened, 0⟩ : Policy).maxDepth ≤ s.depth ∧
      call ⟨.hardened, 0⟩ (.control .forLoop) s =
        .raised (.tooDeep 0) (s.withOperands [int 0, .bool true]) :=
  ⟨Nat.le_refl 0, ((limit_takes_operands ⟨.hardened, 0⟩ _ (Nat.le_refl 0)).1 .forLoop
    (.counting [] 0 1 3) _ [.number (.int 0)] rfl rfl).1⟩

/-- So it is not true that an operator that is stopped by the limit leaves the operand stack as it
was: `if` has taken its condition and its body from it. -/
theorem not_operands_eq_of_limit :
    ¬ ∀ (policy : Policy) (s : State) (c : Control) (passes : Passes) (m : Machine),
      s.depth = policy.maxDepth → c.prepare s.machine = .ok (passes, m) →
        passes.first? ≠ none → ∃ t, call policy (.control c) s =
          .raised (.tooDeep policy.maxDepth) t ∧ t.machine.operands = s.machine.operands := by
  intro h
  obtain ⟨t, hcall, hoperands⟩ := h ⟨.compatible, 0⟩
    ((State.fresh .silent).withOperands [.proc [.number (.int 1)], .bool true]) .ifTrue
    (.once [.number (.int 1)]) _ rfl rfl (Option.some_ne_none _)
  rw [call_control_of_limit (Nat.le_refl 0) rfl rfl] at hcall
  cases hcall
  cases hoperands

end Refused

end StackScript
