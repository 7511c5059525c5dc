import StackScript.Proofs.Operator.Refusal
import StackScript.Proofs.Run.Recovery
import StackScript.Proofs.Session.Action

/-!
# Operands as catalogued

The catalogue says of every operator how many operands it cannot do without. The operators
themselves do not look into the catalogue: each of them counts its operands on its own, as it takes
them. This module says that both agree.

With fewer operands than that, an operator answers that there are too few, whatever the operands
are. With so many or more it does not, whatever else is wrong (`Asks`), and neither does anything
that a control operator runs, for a body records such a fault and passes on fatal ones only. Two
operators may ask for more than the catalogue says: `copy` by its count, and `begin` where the mode
has it insist on a dictionary (`Operator.AsksMore`).

What lies beneath the operands an operator leaves alone, unless it is there to work on the whole
stack or to run a body (`Primitive.beneath_of_apply`).
-/

namespace StackScript

/-- Whether a fault is that of too few operands. -/
def Fault.isTooFew : Fault → Bool
  | .tooFewOperands .. => true
  | _ => false

/-- Whatever goes wrong, there are operands enough. -/
abbrev Suffices {α : Type} (x : Except Fault α) : Prop :=
  Raises (fun f => f.isTooFew = false) x

/-- What an operator comes to on a stack is decided by the number of operands first: if it is below
the needed number, that is the fault, and otherwise it is not. -/
structure Asks {α : Type} (op : Operator) (needed : Nat) (stack : Operands) (x : Except Fault α) :
    Prop where
  /-- too few operands are refused -/
  few : stack.length < needed → x = .error (.tooFewOperands op needed stack.length)
  /-- enough operands are not refused for being too few -/
  enough : needed ≤ stack.length → Suffices x

namespace Suffices

variable {op : Operator}

theorem expectNumber (v : Value) : Suffices (v.expectNumber op) :=
  Raises.expectNumber (fun _ _ => rfl) v

theorem expectInt (v : Value) : Suffices (v.expectInt op) :=
  Raises.expectInt (fun _ _ => rfl) v

theorem expectBool (v : Value) : Suffices (v.expectBool op) :=
  Raises.expectBool (fun _ _ => rfl) v

theorem expectProc (v : Value) : Suffices (v.expectProc op) :=
  Raises.expectProc (fun _ _ => rfl) v

theorem expectArray (v : Value) : Suffices (v.expectArray op) :=
  Raises.expectArray (fun _ _ => rfl) v

theorem element (s : Store) (array index : Value) : Suffices (s.element op array index) :=
  Raises.element (fun _ _ => rfl) (fun _ _ => rfl) s array index

end Suffices

/-! ## Primitives -/

namespace Asks

variable {op : Operator} {m : Machine}

theorem of_few {α : Type} {needed : Nat} {stack : Operands} (h : stack.length < needed) :
    Asks op needed stack (.error (.tooFewOperands op needed stack.length) : Except Fault α) :=
  ⟨fun _ => rfl, fun hle => absurd hle (Nat.not_le_of_lt h)⟩

theorem of_enough {α : Type} {needed : Nat} {stack : Operands} {x : Except Fault α}
    (h : needed ≤ stack.length) (hx : Suffices x) : Asks op needed stack x :=
  ⟨fun hlt => absurd hlt (Nat.not_lt_of_le h), fun _ => hx⟩

/-- An operator that needs no operands only has to raise no such fault. -/
theorem zero {α : Type} {stack : Operands} {x : Except Fault α} (h : Suffices x) :
    Asks op 0 stack x :=
  of_enough (Nat.zero_le _) h

theorem withOne {f : Value → Except Fault (List Value)} (hf : ∀ a, Suffices (f a)) :
    Asks op 1 m.operands (m.withOne op f) := by
  rw [Machine.withOne]
  rcases m.operands with _ | ⟨a, rest⟩
  · exact of_few (by decide)
  · exact of_enough (by simp) ((hf a).map)

theorem withTwo {f : Value → Value → Except Fault (List Value)} (hf : ∀ a b, Suffices (f a b)) :
    Asks op 2 m.operands (m.withTwo op f) := by
  rw [Machine.withTwo]
  rcases m.operands with _ | ⟨b, _ | ⟨a, rest⟩⟩
  · exact of_few (by simp)
  · exact of_few (by simp)
  · exact of_enough (by simp) ((hf a b).map)

/-- Two numbers are asked for, and then a function of them. -/
theorem withNumbers {f : Number → Number → Except Fault (List Value)}
    (hf : ∀ x y, Suffices (f x y)) :
    Asks op 2 m.operands (m.withTwo op fun a b => do
      let x ← a.expectNumber op
      let y ← b.expectNumber op
      f x y) :=
  withTwo fun a b =>
    (Suffices.expectNumber a).bind fun x => (Suffices.expectNumber b).bind fun y => hf x y

theorem put : Asks (.primitive .put) 3 m.operands m.put := by
  rw [Machine.put]
  rcases m.operands with _ | ⟨v, _ | ⟨index, _ | ⟨array, rest⟩⟩⟩
  · exact of_few (by simp)
  · exact of_few (by simp)
  · exact of_few (by simp)
  · exact of_enough (by simp) ((Suffices.element _ array index).map)

theorem newDict : Asks (.primitive .dict) 1 m.operands m.newDict := by
  rw [Machine.newDict]
  rcases m.operands with _ | ⟨hint, rest⟩
  · exact of_few (by simp)
  · exact of_enough (by simp) ((Suffices.expectNumber hint).map)

theorem printTop : Asks (.primitive .print) 1 m.operands m.printTop := by
  rw [Machine.printTop]
  rcases m.operands with _ | ⟨v, rest⟩
  · exact of_few (by simp)
  · exact of_enough (by simp) (Raises.ok _)

theorem define : Asks (.primitive .define) 2 m.operands m.define := by
  rw [Machine.define]
  rcases m.operands with _ | ⟨v, _ | ⟨name, rest⟩⟩
  · exact of_few (by simp)
  · exact of_few (by simp)
  · refine of_enough (by simp) ?_
    exact (Raises.expectDefinable (fun _ _ => rfl) (fun _ => rfl) name).bind fun n =>
      Raises.bind (Raises.define (fun _ => rfl) _ _ n v) fun _ => Raises.ok _

theorem endScope : Asks (.primitive .endScope) 0 m.operands m.endScope := by
  refine zero ?_
  rw [Machine.endScope]
  split
  · exact Raises.ok _
  · exact Raises.error rfl

end Asks

namespace Primitive

variable {mode : Mode} {p : Primitive} {m : Machine}

theorem asks_arithmetic (f : Number → Number → Number) :
    Asks (.primitive p) 2 m.operands (arithmetic p f m) :=
  .withNumbers fun _ _ => Raises.ok _

theorem asks_division (f : Number → Number → Number) :
    Asks (.primitive p) 2 m.operands (division p f m) := by
  refine .withNumbers fun x y => ?_
  split
  · exact Raises.error rfl
  · exact Raises.ok _

theorem asks_comparison (f : Number → Number → Bool) :
    Asks (.primitive p) 2 m.operands (comparison p f m) :=
  .withNumbers fun _ _ => Raises.ok _

theorem asks_logic (f : Bool → Bool → Bool) :
    Asks (.primitive p) 2 m.operands (logic p f m) :=
  .withTwo fun a b => (Suffices.expectBool a).bind fun _ =>
    (Suffices.expectBool b).bind fun _ => Raises.ok _

/-- Apart from `copy` and `begin`, the primitives ask for as many operands as the catalogue says. -/
theorem asks_apply (hcopy : p ≠ .copy) (hbegin : p ≠ .beginScope) :
    Asks (.primitive p) p.minOperands m.operands (p.apply mode m) := by
  cases p with
  | add | sub | mul => exact asks_arithmetic _
  | div | mod => exact asks_division _
  | lt | gt | eq => exact asks_comparison _
  | and | or => exact asks_logic _
  | neg => exact .withOne fun a => (Suffices.expectNumber a).map
  | length => exact .withOne fun a => (Suffices.expectArray a).map
  | not => exact .withOne fun a => (Suffices.expectBool a).map
  | get => exact .withTwo fun array index => (Suffices.element _ array index).map
  | dup | pop => exact .withOne fun _ => Raises.ok _
  | exch => exact .withTwo fun _ _ => Raises.ok _
  | put => exact .put
  | clear | stack | count => exact .zero (Raises.ok _)
  | print => exact .printTop
  | dict => exact .newDict
  | endScope => exact .endScope
  | define => exact .define
  | copy => exact absurd rfl hcopy
  | beginScope => exact absurd rfl hbegin

end Primitive

/-! ## Asking for more -/

/-- Where an operator asks for more operands than the catalogue says it needs. -/
inductive Operator.AsksMore (mode : Mode) : Operator → Operands → Nat → Prop where
  /-- `copy` asks for its count and as many values as it says -/
  | copy {n : Int64} {rest : Operands} (h : rest.length < n.toInt) :
    AsksMore mode (.primitive .copy) (.number (.int n) :: rest) (n.toInt.toNat + 1)
  /-- `begin` asks for a dictionary, if the mode insists on it -/
  | beginScope (h : mode.checksBegin = true) : AsksMore mode (.primitive .beginScope) [] 1

namespace Primitive

variable {mode : Mode} {p : Primitive} {m : Machine} {asking : Operator} {needed found : Nat}

/-- An operator that has not too few operands does not ask for more either. -/
theorem eq_tooFew_iff_of_suffices {x : Except Fault Machine} (hx : Suffices x)
    (hmore : ¬ (Operator.primitive p).AsksMore mode m.operands needed) :
    x = .error (.tooFewOperands asking needed found) ↔
      (Operator.primitive p).AsksMore mode m.operands needed ∧
        asking = .primitive p ∧ found = m.operands.length :=
  iff_of_false (fun h => Bool.noConfusion (hx _ h)) fun h => hmore h.1

/-- Where the count of `copy` exceeds the values beneath it, they are too few. -/
theorem copy_of_lacking {n : Int64} {rest : Operands} (hops : m.operands = .number (.int n) :: rest)
    (hn : rest.length < n.toInt) :
    m.copy = .error (.tooFewOperands (.primitive .copy) (n.toInt.toNat + 1) (rest.length + 1)) := by
  have hneg : ¬ n.toInt < 0 := by omega
  have hfew : ¬ n.toInt.toNat ≤ rest.length := by omega
  rw [Machine.copy, hops]
  dsimp only
  rw [if_neg hneg, Operands.duplicateTop?, if_neg hfew]

/-- Where no count exceeds the values beneath it, they suffice. -/
theorem suffices_copy {v : Value} {rest : Operands} (hops : m.operands = v :: rest)
    (hv : ∀ n : Int64, v = .number (.int n) → n.toInt ≤ rest.length) : Suffices m.copy := by
  rw [Machine.copy, hops]
  split
  · next n below heq =>
    obtain ⟨rfl, rfl⟩ := List.cons.inj heq
    have hle := hv n rfl
    split
    · exact Raises.error rfl
    · rw [Operands.duplicateTop?, if_pos (by omega)]
      exact Raises.ok _
  · exact Raises.error rfl
  · next heq => cases heq

/-- With an operand on the stack, `copy` has too few only if its count exceeds the values beneath
it. -/
theorem copy_eq_tooFew_iff (h : 1 ≤ m.operands.length) :
    m.copy = .error (.tooFewOperands asking needed found) ↔
      (Operator.primitive .copy).AsksMore mode m.operands needed ∧
        asking = .primitive .copy ∧ found = m.operands.length := by
  obtain ⟨v, rest, hops⟩ := List.exists_cons_of_length_pos h
  by_cases hv : ∃ n : Int64, v = .number (.int n) ∧ rest.length < n.toInt
  · obtain ⟨n, rfl, hn⟩ := hv
    rw [copy_of_lacking hops hn, hops]
    constructor
    · rintro ⟨⟩
      exact ⟨.copy hn, rfl, rfl⟩
    · rintro ⟨⟨-⟩, rfl, rfl⟩
      rfl
  · refine eq_tooFew_iff_of_suffices (suffices_copy hops fun n hn => ?_) ?_
    · exact Int.not_lt.mp fun hlt => hv ⟨n, hn, hlt⟩
    · rw [hops]
      rintro ⟨hn⟩
      exact hv ⟨_, rfl, hn⟩

/-- `begin` has too few operands only if it insists on one and there is none. -/
theorem beginScope_eq_tooFew_iff :
    m.beginScope mode = .error (.tooFewOperands asking needed found) ↔
      (Operator.primitive .beginScope).AsksMore mode m.operands needed ∧
        asking = .primitive .beginScope ∧ found = m.operands.length := by
  by_cases hnone : mode.checksBegin = true ∧ m.operands = []
  · obtain ⟨hmode, hops⟩ := hnone
    have hbegin : m.beginScope mode = .error (.tooFewOperands (.primitive .beginScope) 1 0) := by
      rw [Machine.beginScope, hops]
      exact if_pos hmode
    rw [hbegin, hops]
    constructor
    · rintro ⟨⟩
      exact ⟨.beginScope hmode, rfl, rfl⟩
    · rintro ⟨⟨-⟩, rfl, rfl⟩
      rfl
  · refine eq_tooFew_iff_of_suffices ?_ ?_
    · rw [Machine.beginScope]
      split
      · exact Raises.ok _
      · split
        · exact Raises.error rfl
        · exact Raises.ok _
      · next hops =>
        rw [if_neg fun hmode => hnone ⟨hmode, hops⟩]
        exact Raises.ok _
    · generalize m.operands = stack at hnone
      rintro (_ | hmode)
      exact hnone ⟨hmode, rfl⟩

/-- A primitive with fewer operands than catalogued answers just that. -/
theorem apply_of_few (h : m.operands.length < p.minOperands) :
    p.apply mode m = .error (.tooFewOperands (.primitive p) p.minOperands m.operands.length) := by
  by_cases hcopy : p = .copy
  · subst hcopy
    have hops : m.operands = [] := List.length_eq_zero_iff.mp (Nat.lt_one_iff.mp h)
    rw [apply, Machine.copy, hops]
    rfl
  by_cases hbegin : p = .beginScope
  · subst hbegin
    cases h
  · exact (asks_apply hcopy hbegin).few h

/-- A primitive with as many operands as catalogued does not lack any, unless it asks for more. -/
theorem apply_eq_tooFew_iff (h : p.minOperands ≤ m.operands.length) :
    p.apply mode m = .error (.tooFewOperands asking needed found) ↔
      (Operator.primitive p).AsksMore mode m.operands needed ∧
        asking = .primitive p ∧ found = m.operands.length := by
  by_cases hcopy : p = .copy
  · subst hcopy
    exact copy_eq_tooFew_iff h
  by_cases hbegin : p = .beginScope
  · subst hbegin
    exact beginScope_eq_tooFew_iff
  · refine eq_tooFew_iff_of_suffices ((asks_apply hcopy hbegin).enough h) ?_
    generalize m.operands = stack
    rintro (_ | _)
    · exact hcopy rfl
    · exact hbegin rfl

end Primitive

/-! ## Control operators -/

/-- A control operator asks for as many operands as the catalogue says, before it runs anything. -/
theorem Control.asks_prepare (c : Control) (m : Machine) :
    Asks (.control c) c.minOperands m.operands (c.prepare m) := by
  cases c with
  | ifTrue =>
    rw [prepare, prepareIf]
    rcases m.operands with _ | ⟨body, _ | ⟨condition, rest⟩⟩
    · exact .of_few (by decide)
    · exact .of_few (by simp [minOperands])
    · exact .of_enough (by simp [minOperands]) <| (Suffices.expectBool _).bind fun _ =>
        (Suffices.expectProc _).bind fun _ => Raises.ok _
  | ifElse =>
    rw [prepare, prepareIfElse]
    rcases m.operands with _ | ⟨otherwise, _ | ⟨body, _ | ⟨condition, rest⟩⟩⟩
    · exact .of_few (by decide)
    · exact .of_few (by simp [minOperands])
    · exact .of_few (by simp [minOperands])
    · exact .of_enough (by simp [minOperands]) <| (Suffices.expectBool _).bind fun _ =>
        (Suffices.expectProc _).bind fun _ => (Suffices.expectProc _).bind fun _ => Raises.ok _
  | forLoop =>
    rw [prepare, prepareFor]
    rcases m.operands with _ | ⟨body, _ | ⟨limit, _ | ⟨step, _ | ⟨start, rest⟩⟩⟩⟩
    · exact .of_few (by decide)
    · exact .of_few (by simp [minOperands])
    · exact .of_few (by simp [minOperands])
    · exact .of_few (by simp [minOperands])
    · refine .of_enough (by simp [minOperands]) <| (Suffices.expectInt _).bind fun _ =>
        (Suffices.expectInt _).bind fun _ => (Suffices.expectInt _).bind fun _ =>
          (Suffices.expectProc _).bind fun _ => ?_
      split
      · exact Raises.error rfl
      · exact Raises.ok _
  | forAll =>
    rw [prepare, prepareForAll]
    rcases m.operands with _ | ⟨body, _ | ⟨array, rest⟩⟩
    · exact .of_few (by decide)
    · exact .of_few (by simp [minOperands])
    · refine .of_enough (by simp [minOperands]) ?_
      dsimp only
      split
      · split
        · exact (Suffices.expectProc _).bind fun _ => Raises.ok _
        · exact Raises.error rfl
      · exact Raises.error rfl

/-! ## What lies beneath -/

/-- How many operands a primitive touches: those that it cannot do without, and of `begin` one. -/
def Primitive.touched (p : Primitive) : Nat :=
  if p = .beginScope then 1 else p.minOperands

namespace Machine

variable {op : Operator} {m after : Machine}

theorem beneath_of_withOne {f : Value → Except Fault (List Value)}
    (h : m.withOne op f = .ok after) : m.operands.drop 1 <:+ after.operands := by
  rw [withOne] at h
  split at h
  · next a rest hops =>
    obtain ⟨results, -, rfl⟩ := exists_of_map_eq_ok h
    rw [hops]
    exact List.suffix_append results rest
  · cases h

theorem beneath_of_withTwo {f : Value → Value → Except Fault (List Value)}
    (h : m.withTwo op f = .ok after) : m.operands.drop 2 <:+ after.operands := by
  rw [withTwo] at h
  split at h
  · next b a rest hops =>
    obtain ⟨results, -, rfl⟩ := exists_of_map_eq_ok h
    rw [hops]
    exact List.suffix_append results rest
  · cases h

theorem beneath_of_printTop (h : m.printTop = .ok after) :
    m.operands.drop 1 <:+ after.operands := by
  rw [printTop] at h
  split at h
  · next v rest hops =>
    cases h
    rw [hops]
    exact List.suffix_refl rest
  · cases h

theorem beneath_of_put (h : m.put = .ok after) : m.operands.drop 3 <:+ after.operands := by
  rw [put] at h
  split at h
  · next v index array rest hops =>
    obtain ⟨⟨r, i⟩, -, rfl⟩ := exists_of_map_eq_ok h
    rw [hops]
    exact List.suffix_cons array rest
  · cases h

theorem beneath_of_newDict (h : m.newDict = .ok after) :
    m.operands.drop 1 <:+ after.operands := by
  rw [newDict] at h
  split at h
  · next hint rest hops =>
    obtain ⟨n, -, rfl⟩ := exists_of_map_eq_ok h
    rw [hops]
    exact List.suffix_cons _ rest
  · cases h

/-- Where `begin` is ignored it leaves its operand, too. -/
theorem beneath_of_beginScope {mode : Mode} (h : m.beginScope mode = .ok after) :
    m.operands.drop 1 <:+ after.operands := by
  rw [beginScope] at h
  split at h
  · next r rest hops =>
    cases h
    rw [hops]
    exact List.suffix_refl rest
  · split at h <;> cases h
    exact List.drop_suffix _ _
  · split at h <;> cases h
    exact List.drop_suffix _ _

theorem beneath_of_endScope (h : m.endScope = .ok after) : m.operands <:+ after.operands := by
  rw [endScope] at h
  split at h
  · cases h
    exact List.suffix_refl _
  · cases h

theorem beneath_of_define (h : m.define = .ok after) : m.operands.drop 2 <:+ after.operands := by
  rw [define] at h
  split at h
  · next v key rest hops =>
    obtain ⟨n, -, hbound⟩ := exists_of_bind_eq_ok h
    obtain ⟨⟨scopes, store⟩, -, hafter⟩ := exists_of_bind_eq_ok hbound
    cases hafter
    rw [hops]
    exact List.suffix_refl rest
  · cases h

end Machine

namespace Primitive

variable {mode : Mode} {p : Primitive} {m after : Machine}

/-- **What lies beneath stays**: apart from `clear` and `copy`, a primitive leaves every value that
it does not touch in its place. -/
theorem beneath_of_apply (hclear : p ≠ .clear) (hcopy : p ≠ .copy)
    (h : p.apply mode m = .ok after) : m.operands.drop p.touched <:+ after.operands := by
  cases p with
  | clear => exact absurd rfl hclear
  | copy => exact absurd rfl hcopy
  | add | sub | mul | div | mod | lt | gt | eq | and | or | get | exch =>
    exact Machine.beneath_of_withTwo h
  | neg | length | not | dup | pop => exact Machine.beneath_of_withOne h
  | stack =>
    obtain ⟨sink, hsink⟩ := printAll_eq m
    rw [apply, hsink] at h
    cases h
    exact List.suffix_refl _
  | print => exact Machine.beneath_of_printTop h
  | count =>
    cases h
    exact List.suffix_cons _ _
  | put => exact Machine.beneath_of_put h
  | dict => exact Machine.beneath_of_newDict h
  | beginScope => exact Machine.beneath_of_beginScope h
  | endScope => exact Machine.beneath_of_endScope h
  | define => exact Machine.beneath_of_define h

end Primitive

/-! ## The catalogue -/

namespace Session

variable {s t : Session}

/-- With as many operands as catalogued no control operator lacks any, and nothing that it runs
says so either: what comes out of a body is fatal. -/
theorem call_control_ne_tooFew {c : Control} (h : c.minOperands ≤ s.operands.length)
    (asking : Operator) (needed found : Nat) :
    s.call (.control c) ≠ (some (.tooFewOperands asking needed found), t) := by
  intro hcall
  have hfault := congrArg Prod.fst hcall
  rw [call, StackScript.call, invoke_control] at hfault
  rcases hprepare : c.prepare s.state.machine with f | ⟨passes, m⟩ <;> rw [hprepare] at hfault
  · have hfew := (Control.asks_prepare c s.state.machine).enough h f hprepare
    obtain rfl := Option.some.inj hfault
    cases hfew
  · dsimp only at hfault
    rcases hpasses : runPasses (enterAt s.policy s.state) passes { s.state with machine := m } with
      u | ⟨f, u⟩ <;> rw [hpasses] at hfault
    · cases hfault
    · have hfatal := OnlyFatal.runPasses (onlyFatal_enter s.policy _) hpasses
      obtain rfl := Option.some.inj hfault
      rcases hmode : s.policy.mode <;> rw [hmode] at hfatal <;> cases hfatal

/-- **The catalogue counts operands.** In every session:

* an operator that finds fewer operands than the catalogue says answers that there are too few, with
  its own name and both numbers, and changes nothing;
* with so many or more, no operator answers that there are too few, but for `copy`, if its count
  exceeds the values beneath it, and `begin`, if there is no operand and the mode insists on one;
  these do, and change nothing;
* a primitive other than `clear` and `copy` that goes ahead leaves what lies beneath the operands
  that it touches in its place. -/
theorem catalogue_counts_operands (s : Session) :
    (∀ op : Operator, s.operands.length < op.minOperands →
      s.call op = (some (.tooFewOperands op op.minOperands s.operands.length), s)) ∧
    (∀ (op asking : Operator) (needed found : Nat) (t : Session),
      op.minOperands ≤ s.operands.length →
        (s.call op = (some (.tooFewOperands asking needed found), t) ↔
          op.AsksMore s.policy.mode s.operands needed ∧ asking = op ∧
            found = s.operands.length ∧ t = s)) ∧
    ∀ (p : Primitive) (t : Session), p ≠ .clear → p ≠ .copy →
      s.call (.primitive p) = (none, t) → s.operands.drop p.touched <:+ t.operands := by
  refine ⟨fun op hfew => ?_, fun op asking needed found t henough => ?_,
    fun p t hclear hcopy hcall => ?_⟩
  · cases op with
    | primitive p => exact call_primitive_of_error (Primitive.apply_of_few hfew)
    | control c =>
      have hprepare := (Control.asks_prepare c s.state.machine).few hfew
      rw [call, StackScript.call, invoke_control, hprepare]
      rfl
  · cases op with
    | primitive p =>
      rw [call_primitive_eq_some_iff,
        Primitive.apply_eq_tooFew_iff (m := s.state.machine) henough, and_assoc, and_assoc]
      rfl
    | control c =>
      refine iff_of_false (call_control_ne_tooFew henough asking needed found) fun h => ?_
      obtain ⟨hmore, -⟩ := h
      generalize s.operands = stack at hmore
      cases hmore
  · obtain ⟨m, happly, rfl⟩ := exists_of_call_primitive hcall
    exact Primitive.beneath_of_apply hclear hcopy happly

/-- Of two operands `put` asks for one more, and `copy` for as many as its count says; `neg` leaves
the one beneath. Where it insists on a dictionary, `begin` asks for an operand too. -/
theorem catalogue_counts_operands_of_two :
    let s := ((fresh ⟨.hardened, 9⟩ .silent).push (.bool true)).push (.number (.int 5))
    let empty := fresh ⟨.hardened, 9⟩ .silent
    s.call (.primitive .put) = (some (.tooFewOperands (.primitive .put) 3 2), s) ∧
      s.call (.primitive .copy) = (some (.tooFewOperands (.primitive .copy) 6 2), s) ∧
      empty.call (.primitive .beginScope) =
        (some (.tooFewOperands (.primitive .beginScope) 1 0), empty) ∧
      (s.call (.primitive .neg)).1 = none ∧
      [.bool true] <:+ (s.call (.primitive .neg)).2.operands := by
  intro s empty
  obtain ⟨hfew, hmore, hbeneath⟩ := catalogue_counts_operands s
  have hneg : (s.call (.primitive .neg)).1 = none := rfl
  refine ⟨hfew (.primitive .put) (by decide), ?_, ?_, hneg, ?_⟩
  · have hcopy : (Operator.primitive .copy).AsksMore .hardened s.operands 6 :=
      .copy (n := 5) (by decide)
    exact (hmore (.primitive .copy) _ 6 2 s (by decide)).mpr ⟨hcopy, rfl, rfl, rfl⟩
  · exact ((catalogue_counts_operands empty).2.1 (.primitive .beginScope) _ 1 0 empty
      (Nat.zero_le _)).mpr ⟨.beginScope rfl, rfl, rfl, rfl⟩
  · exact hbeneath .neg _ (by decide) (by decide) (Prod.ext hneg rfl)

end Session

end StackScript
