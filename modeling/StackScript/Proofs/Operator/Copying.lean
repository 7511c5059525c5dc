import StackScript.Proofs.Operator.Catalogue

/-!
# Copying

`copy` takes a count from the top of the stack and repeats as many of the values beneath it. The
count is a signed integer and lies on the stack itself, while the values beneath are counted without
it; so there are five ways for `copy` to go, and which one it goes is decided before anything is
taken (`copy_repeats_values`).

Stacks are written deepest value first here: the count stands at the end, and what is repeated is
appended to what was in front of it.
-/

namespace StackScript

/-! ## The ways in which it goes -/

namespace Machine

variable {m : Machine} {values : List Value} {v : Value} {n : Int64}

/-- What is last, deepest value first, lies on top. -/
theorem operands_of_deepestFirst (h : m.operands.deepestFirst = values ++ [v]) :
    m.operands = v :: values.reverse := by
  rw [← List.reverse_reverse m.operands, show m.operands.reverse = _ from h,
    List.reverse_append]
  rfl

/-- With as many values beneath the count as it says, it is replaced by the last of them. -/
theorem copy_of_enough (h : m.operands.deepestFirst = values ++ [.number (.int n)])
    (hnonneg : 0 ≤ n.toInt) (hn : n.toInt ≤ values.length) :
    m.copy = .ok { m with
      operands := (values ++ values.drop (values.length - n.toInt.toNat)).reverse } := by
  have hle : n.toInt.toNat ≤ values.reverse.length := by
    rw [List.length_reverse]
    omega
  have hlast : values.reverse.take n.toInt.toNat =
      (values.drop (values.length - n.toInt.toNat)).reverse := List.take_reverse
  rw [copy, operands_of_deepestFirst h]
  dsimp only
  rw [if_neg (Int.not_lt.mpr hnonneg), Operands.duplicateTop?, if_pos hle, hlast,
    List.reverse_append]

/-- A negative count refers to no values. -/
theorem copy_of_negative (h : m.operands.deepestFirst = values ++ [.number (.int n)])
    (hn : n.toInt < 0) :
    m.copy = .error (.outOfRange (.primitive .copy) n.toInt (values.length + 1)) := by
  rw [copy, operands_of_deepestFirst h]
  dsimp only
  rw [if_pos hn, List.length_reverse]

/-- A count may not exceed the values beneath it. -/
theorem copy_of_excess (h : m.operands.deepestFirst = values ++ [.number (.int n)])
    (hn : values.length < n.toInt) :
    m.copy =
      .error (.tooFewOperands (.primitive .copy) (n.toInt.toNat + 1) (values.length + 1)) := by
  have hlacking : values.reverse.length < n.toInt := by rwa [List.length_reverse]
  rw [Primitive.copy_of_lacking (operands_of_deepestFirst h) hlacking, List.length_reverse]

/-- Nothing but an integer is a count. -/
theorem copy_of_noInteger (h : m.operands.deepestFirst = values ++ [v])
    (hv : ∀ n, v ≠ .number (.int n)) :
    m.copy = .error (.wrongKind (.primitive .copy) .integer v.kind) := by
  rw [copy, operands_of_deepestFirst h]
  split
  · next heq => exact absurd (List.cons.inj heq).1 (hv _)
  · next heq =>
    obtain ⟨rfl, -⟩ := List.cons.inj heq
    rfl
  · next heq => cases heq

/-- Without operands there is no count. -/
theorem copy_of_empty (h : m.operands.deepestFirst = []) :
    m.copy = .error (.tooFewOperands (.primitive .copy) 1 0) := by
  rw [copy, List.reverse_eq_nil_iff.mp h]

/-- Which stacks `copy` goes ahead on. -/
theorem exists_copy_eq_ok_iff :
    (∃ after, m.copy = .ok after) ↔
      ∃ (values : List Value) (n : Int64),
        m.operands.deepestFirst = values ++ [.number (.int n)] ∧ 0 ≤ n.toInt ∧
          n.toInt ≤ values.length := by
  constructor
  · rintro ⟨after, hok⟩
    -- on every stack of another form there is a fault
    rcases List.eq_nil_or_concat m.operands.deepestFirst with hstack | ⟨values, v, hstack⟩
    · rw [copy_of_empty hstack] at hok
      cases hok
    rw [List.concat_eq_append] at hstack
    by_cases hv : ∃ n, v = .number (.int n)
    · obtain ⟨n, rfl⟩ := hv
      refine ⟨values, n, hstack, Int.not_lt.mp fun hneg => ?_, Int.not_lt.mp fun hfew => ?_⟩
      · rw [copy_of_negative hstack hneg] at hok
        cases hok
      · rw [copy_of_excess hstack hfew] at hok
        cases hok
    · rw [copy_of_noInteger hstack fun n hn => hv ⟨n, hn⟩] at hok
      cases hok
  · rintro ⟨values, n, hstack, hnonneg, hn⟩
    exact ⟨_, copy_of_enough hstack hnonneg hn⟩

end Machine

/-! ## The law -/

namespace Session

/-- **`copy` repeats the values beneath its count.** On every stack, deepest value first:

* `copy` goes ahead exactly if the stack ends in an integer that is neither negative nor greater
  than the number of values in front of it;
* then the count is gone, the values in front of it are as they were, and as many of the last of
  them as it said are appended once more in the same order; of the rest of the session nothing is
  different;
* on an empty stack it lacks the count itself; a top that is no integer is of the wrong kind; a
  negative count is out of range; and a count greater than the number of values in front of it asks
  for one more operand than it says, for it needs itself too. In all four cases nothing changes.

In the midst of a run it does what it does when it is called. -/
theorem copy_repeats_values (s : Session) :
    let op := Operator.primitive .copy
    let stack := s.operands.deepestFirst
    ((s.call op).1 = none ↔
      ∃ (values : List Value) (n : Int64), stack = values ++ [.number (.int n)] ∧
        0 ≤ n.toInt ∧ n.toInt ≤ stack.length - 1) ∧
    (∀ (values : List Value) (n : Int64), stack = values ++ [.number (.int n)] →
      0 ≤ n.toInt → n.toInt ≤ values.length → ∃ t, s.call op = (none, t) ∧
        t.operands.deepestFirst = values ++ values.drop (values.length - n.toInt.toNat) ∧
        t = s.mapMachine fun m => { m with operands := t.operands }) ∧
    (stack = [] → s.call op = (some (.tooFewOperands op 1 0), s)) ∧
    (∀ values v, stack = values ++ [v] → (∀ n, v ≠ .number (.int n)) →
      s.call op = (some (.wrongKind op .integer v.kind), s)) ∧
    (∀ (values : List Value) (n : Int64), stack = values ++ [.number (.int n)] → n.toInt < 0 →
      s.call op = (some (.outOfRange op n.toInt stack.length), s)) ∧
    (∀ (values : List Value) (n : Int64), stack = values ++ [.number (.int n)] →
      values.length < n.toInt →
        s.call op = (some (.tooFewOperands op (n.toInt.toNat + 1) stack.length), s)) ∧
    ∀ enter, step s.policy.mode enter (.operator op) s.state =
      StackScript.call s.policy op s.state := by
  intro op stack
  have hlength : ∀ {values v}, stack = values ++ [v] → stack.length = values.length + 1 := by
    rintro values v hstack
    rw [hstack, List.length_append, List.length_singleton]
  refine ⟨?_, fun values n hstack hnonneg hn => ?_, fun hstack => ?_, fun values v hstack hv => ?_,
    fun values n hstack hn => ?_, fun values n hstack hn => ?_, fun enter => rfl⟩
  · have hahead : (s.call op).1 = none ↔ ∃ after, s.state.machine.copy = .ok after := by
      constructor
      · intro hnone
        obtain ⟨after, hok, -⟩ := exists_of_call_primitive (Prod.ext hnone rfl)
        exact ⟨after, hok⟩
      · rintro ⟨after, hok⟩
        rw [call_primitive_of_ok (p := .copy) hok]
    rw [hahead, Machine.exists_copy_eq_ok_iff]
    refine exists_congr fun values => exists_congr fun n => and_congr_right fun hstack => ?_
    rw [hlength hstack, Int.natCast_add, Int.natCast_one, Int.add_sub_cancel]
  · refine ⟨_, call_primitive_of_ok (p := .copy) (Machine.copy_of_enough hstack hnonneg hn),
      List.reverse_reverse _, rfl⟩
  · exact call_primitive_of_error (p := .copy) (Machine.copy_of_empty hstack)
  · exact call_primitive_of_error (p := .copy) (Machine.copy_of_noInteger hstack hv)
  · rw [hlength hstack]
    exact call_primitive_of_error (p := .copy) (Machine.copy_of_negative hstack hn)
  · rw [hlength hstack]
    exact call_primitive_of_error (p := .copy) (Machine.copy_of_excess hstack hn)

/-- Of three values the last two are repeated. One more than there are is refused, and so is the
smallest integer of all; the greatest asks for more operands than any count could say. -/
theorem copy_repeats_values_of_three :
    let int n := Value.number (.int n)
    let on (n : Int64) := (fresh .standard .silent).performAll
      [.push (int 7), .push (.bool true), .push (int 9), .push (int n)]
    let op := Operator.primitive .copy
    ((on 2).call op).1 = none ∧
      ((on 2).call op).2.operands.deepestFirst =
        [int 7, .bool true, int 9, .bool true, int 9] ∧
      (on 4).call op = (some (.tooFewOperands op 5 4), on 4) ∧
      (on Int64.minValue).call op =
        (some (.outOfRange op (-0x8000000000000000) 4), on Int64.minValue) ∧
      (on Int64.maxValue).call op =
        (some (.tooFewOperands op 0x8000000000000000 4), on Int64.maxValue) := by
  intro int on op
  let values : List Value := [int 7, .bool true, int 9]
  have hstack (n : Int64) : (on n).operands.deepestFirst = values ++ [int n] := rfl
  obtain ⟨-, hcopied, -⟩ := copy_repeats_values (on 2)
  obtain ⟨t, hcall, hafter, -⟩ := hcopied values 2 (hstack 2) (by decide) (by decide)
  obtain ⟨-, -, -, -, hnegative, -⟩ := copy_repeats_values (on Int64.minValue)
  obtain ⟨-, -, -, -, -, hfour, -⟩ := copy_repeats_values (on 4)
  obtain ⟨-, -, -, -, -, hgreatest, -⟩ := copy_repeats_values (on Int64.maxValue)
  refine ⟨by rw [hcall], by rw [hcall]; exact hafter, ?_, ?_, ?_⟩
  · exact hfour values 4 (hstack 4) (by decide)
  · exact hnegative values Int64.minValue (hstack _) (by decide)
  · exact hgreatest values Int64.maxValue (hstack _) (by decide)

end Session

end StackScript
