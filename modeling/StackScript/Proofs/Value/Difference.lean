import Mathlib
import StackScript.Value.Equal

/-!
# Differences between values

What tells two values apart can be found by going into both of them, step by step and side by side:
to the element of an array at an index, to what a dictionary binds a name to, to the element of a
procedure at a position. Such a path ends at two values that differ at first sight
(`Store.Differs`): they are of different kinds, or have different numbers, texts, lengths or names.
Where both sides have come to the same cell there is nothing to be found, whatever is in it.

Two values without a path to a difference need not be distinct from a third in the same way, but
they are never told apart by it: a path between the outer two of three values gives one between two
that are next to each other (`Store.Distinguishes.between`). Also, a path leads the same way from
the right to the left (`Store.Distinguishes.symm`).
-/

namespace StackScript

/-- Numbers are equal in value regardless of the order in which they are named, and two that are
equal to a third are equal. -/
instance : PartialEquivBEq Number where
  symm {a b} h := by
    cases a with
    | int n =>
      cases b with
      | int m => exact BEq.symm (α := Int64) h
      | real y => cases h
    | real x =>
      cases b with
      | int m => cases h
      | real y => exact BEq.symm (α := Float) h
  trans {a b c} h₁ h₂ := by
    cases a with
    | int n =>
      cases b with
      | int m =>
        cases c with
        | int k => exact PartialEquivBEq.trans (α := Int64) h₁ h₂
        | real z => cases h₂
      | real y => cases h₁
    | real x =>
      cases b with
      | int m => cases h₁
      | real y =>
        cases c with
        | int k => cases h₂
        | real z => exact PartialEquivBEq.trans (α := Float) h₁ h₂

/-! ## The same cell on both sides -/

namespace Value

/-- References to the same cell are the same value. -/
theorem eq_of_isSameCell {a b : Value} (h : a.isSameCell b = true) : a = b := by
  cases a <;> cases b <;> first
    | cases h
    | rw [eq_of_beq h]

/-- The same cell is the same cell from either side. -/
theorem isSameCell_comm (a b : Value) : a.isSameCell b = b.isSameCell a := by
  cases a <;> cases b <;> first
    | rfl
    | exact BEq.comm

end Value

/-! ## Steps and paths -/

/-- One step into a value. -/
inductive Access where
  /-- to the element of an array at an index -/
  | index (i : Nat)
  /-- to what a dictionary binds a name to -/
  | key (n : Name)
  /-- to the element of a procedure body at a position -/
  | position (i : Nat)
  deriving DecidableEq, Repr

namespace Store

/-- The value that one step into a value leads to, if there is such a step. -/
def follow? (s : Store) : Access → Value → Option Value
  | .index i, .array r => (s.array r)[i]?
  | .key n, .dict r => (s.dict r).get? n
  | .position i, .proc body => body[i]?
  | _, _ => none

/-- Whether two values differ at first sight: of what they contain only the number of elements and
the names that are bound are looked at. -/
def Differs (s : Store) : Value → Value → Prop
  | .number a, .number b => (a == b) = false
  | .bool a, .bool b => a ≠ b
  | .name a, .name b => a ≠ b
  | .array r, .array t => (s.array r).size ≠ (s.array t).size
  | .proc as, .proc bs => as.length ≠ bs.length
  | .dict r, .dict t => ¬ ∀ n, ((s.dict r).get? n).isSome = ((s.dict t).get? n).isSome
  | .operator a, .operator b => a ≠ b
  | .call a, .call b => a ≠ b
  | .unknown a, .unknown b => a ≠ b
  | _, _ => True

/-- A path that leads from two values to a difference and does not come to the same cell on both
sides before. -/
inductive Distinguishes (s : Store) : List Access → Value → Value → Prop where
  /-- the values differ at first sight -/
  | here {a b : Value} (h : s.Differs a b) : Distinguishes s [] a b
  /-- there is a difference further in -/
  | there {step : Access} {path : List Access} {a b a' b' : Value}
    (hcell : a.isSameCell b = false) (ha : s.follow? step a = some a')
    (hb : s.follow? step b = some b') (h : Distinguishes s path a' b') :
    Distinguishes s (step :: path) a b

variable {s : Store} {a b c : Value}

/-! ## Differences at first sight -/

/-- A difference is one from either side. -/
theorem Differs.symm (h : s.Differs a b) : s.Differs b a := by
  cases a <;> cases b <;> first
    | exact trivial
    | exact Ne.symm h
    | exact BEq.comm.trans h
    | exact fun hnames => h fun n => (hnames n).symm

/-- Of two values that differ, one differs from any third. -/
theorem Differs.between (h : s.Differs a c) (b : Value) : s.Differs a b ∨ s.Differs b c := by
  by_contra hnot
  rw [not_or] at hnot
  obtain ⟨hab, hbc⟩ := hnot
  cases a <;> cases b <;> first
    | exact hab trivial
    | cases c <;> first
      | exact hbc trivial
      | exact h ((not_not.mp hab).trans (not_not.mp hbc))
      | exact h fun n => (not_not.mp hab n).trans (not_not.mp hbc n)
      | exact ne_true_of_eq_false h
          (PartialEquivBEq.trans (eq_true_of_ne_false hab) (eq_true_of_ne_false hbc))

/-- Where values do not differ, a step into one of them is also one into the other. -/
theorem exists_follow? (h : ¬ s.Differs a b) {step : Access} {a' : Value}
    (ha : s.follow? step a = some a') : ∃ b', s.follow? step b = some b' := by
  cases step with
  | index i =>
    cases a with
    | array r =>
      cases b with
      | array t =>
        have hsize : (s.array r).size = (s.array t).size := not_not.mp h
        obtain ⟨hi, -⟩ := Array.getElem?_eq_some_iff.mp ha
        exact ⟨_, Array.getElem?_eq_getElem (hsize ▸ hi)⟩
      | _ => exact absurd trivial h
    | _ => cases ha
  | key n =>
    cases a with
    | dict r =>
      cases b with
      | dict t =>
        have hnames := not_not.mp h n
        rw [show (s.dict r).get? n = some a' from ha] at hnames
        exact Option.isSome_iff_exists.mp hnames.symm
      | _ => exact absurd trivial h
    | _ => cases ha
  | position i =>
    cases a with
    | proc as =>
      cases b with
      | proc bs =>
        have hlength : as.length = bs.length := not_not.mp h
        obtain ⟨hi, -⟩ := List.getElem?_eq_some_iff.mp ha
        exact ⟨_, List.getElem?_eq_getElem (hlength ▸ hi)⟩
      | _ => exact absurd trivial h
    | _ => cases ha

/-! ## Paths -/

namespace Distinguishes

variable {path : List Access}

/-- A path to a difference leads there from the right to the left as well. -/
theorem symm (h : s.Distinguishes path a b) : s.Distinguishes path b a := by
  induction h with
  | here h => exact .here h.symm
  | there hcell ha hb _ ih => exact .there ((Value.isSameCell_comm _ _).trans hcell) hb ha ih

/-- If a path leads from two values to a difference, then one leads there from one of them and any
third. -/
theorem between (h : s.Distinguishes path a c) (b : Value) :
    (∃ path, s.Distinguishes path a b) ∨ ∃ path, s.Distinguishes path b c := by
  induction h generalizing b with
  | here h => exact (h.between b).imp (⟨_, .here ·⟩) (⟨_, .here ·⟩)
  | @there step path a c a' c' hcell ha hc h ih =>
    rcases hab : a.isSameCell b with _ | _
    · rcases hbc : b.isSameCell c with _ | _
      · by_cases hdiffers : s.Differs a b
        · exact .inl ⟨_, .here hdiffers⟩
        · -- the third value has such a step as well, and what it leads to lies between
          obtain ⟨b', hb⟩ := exists_follow? hdiffers ha
          exact (ih b').imp (fun ⟨_, h⟩ => ⟨_, .there hab ha hb h⟩)
            fun ⟨_, h⟩ => ⟨_, .there hbc hb hc h⟩
      · obtain rfl := Value.eq_of_isSameCell hbc
        exact .inl ⟨_, .there hcell ha hc h⟩
    · obtain rfl := Value.eq_of_isSameCell hab
      exact .inr ⟨_, .there hcell ha hc h⟩

end Distinguishes

end Store

end StackScript
