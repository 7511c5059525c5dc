import StackScript.Proofs.Value.Comparison

/-!
# Equality is indistinguishability

The comparison of `Value.equal` comes to an end in every store, and two values are equal if and only
if no path leads from them to a difference (`Value.equal_iff_indistinguishable`).

That it ends is said without the budget of `Store.equalCells`: `Store.Compares` describes how cells
are compared with no bound on how deep this goes, and every comparison has an answer in it, the one
that is computed. The budget is never spent, since a pair of cells is pending at most once and there
are only so many pairs (`HasRoom`).

While a pair is pending it counts as equal, so the answer for cells that lie within depends on what
is being compared around them. No difference is lost by this: of the paths that lead from a pair to
a difference a shortest one does not come back to a pair that is pending, because from there a
shorter one would do (`Store.equalCells_eq_false`).
-/

namespace StackScript

/-! ## Room

What goes through the cells of a store, one within the other and none within itself, comes to an
end: there are only so many of them. A budget counts how many more can be gone into.
-/

/-- The budget is enough for all cells that are not pending; `all` lists the cells there are. -/
structure HasRoom {κ : Type} (all : List κ) (budget : Nat) (pending : List κ) : Prop where
  /-- no cell is pending twice -/
  nodup : pending.Nodup
  /-- there are only the listed cells -/
  subset : pending ⊆ all
  /-- budget and pending cells are more than there are cells -/
  lt : all.length < budget + pending.length

namespace HasRoom

variable {κ : Type} {all pending : List κ} {budget : Nat} {cell : κ}

/-- At the beginning there is room if the budget is larger than the number of cells. -/
theorem nil (h : all.length < budget) : HasRoom all budget [] where
  nodup := List.nodup_nil
  subset := List.nil_subset _
  lt := h

/-- As long as there is room, the budget is not spent. -/
theorem ne_zero (h : HasRoom all budget pending) : budget ≠ 0 := by
  rintro rfl
  have hle := (h.nodup.subperm h.subset).length_le
  have hlt := h.lt
  omega

/-- There is room within a cell that is not pending. -/
theorem cons (h : HasRoom all (budget + 1) pending) (hpending : cell ∉ pending)
    (hmem : cell ∈ all) : HasRoom all budget (cell :: pending) where
  nodup := List.nodup_cons.mpr ⟨hpending, h.nodup⟩
  subset := List.cons_subset.mpr ⟨hmem, h.subset⟩
  lt := by
    have hlt := h.lt
    rw [List.length_cons]
    omega

end HasRoom

/-! ## Comparisons without a bound -/

namespace Value

/-- The pairs of cells that a comparison of two values comes to: the two values themselves if they
refer to cells, and those at the same position within two procedures. -/
inductive Meets : Value → Value → CellPair → Prop where
  /-- the values refer to cells -/
  | cells (pair : CellPair) : Meets pair.left pair.right pair
  /-- elements of procedure bodies do -/
  | inside {as bs : List Value} {i : Nat} {a b : Value} {pair : CellPair} (ha : as[i]? = some a)
    (hb : bs[i]? = some b) (h : Meets a b pair) : Meets (.proc as) (.proc bs) pair

/-- What the comparison of two elements comes to, the comparison of the procedures does. -/
theorem Meets.of_follow? {s : Store} {a b a' b' : Value} {step : Access} {pair : CellPair}
    (hmeets : Meets a' b' pair) (h : a.cellPair? b = none) (ha : s.follow? step a = some a')
    (hb : s.follow? step b = some b') : Meets a b pair := by
  obtain ⟨as, bs, i, rfl, rfl, rfl⟩ := Store.eq_proc_of_follow? h ha hb
  exact .inside ha hb hmeets

/-- A comparison depends on the cells that it comes to, and on no others. -/
theorem equalWith_congr {cells cells' : CellPair → Bool} (a b : Value)
    (h : ∀ pair, Meets a b pair → cells pair = cells' pair) :
    equalWith cells a b = equalWith cells' a b := by
  rcases hpair : a.cellPair? b with _ | pair
  · rw [Bool.eq_iff_iff, equalWith_iff .empty hpair, equalWith_iff .empty hpair]
    refine Store.alikeIf_congr fun step a' b' ha hb => ?_
    have hsmaller := Store.sizeOf_lt_of_follow? hpair ha hb
    rw [equalWith_congr a' b' fun q hq => h q (hq.of_follow? hpair ha hb)]
  · obtain ⟨rfl, rfl⟩ := eq_of_cellPair? hpair
    rw [equalWith_cells, equalWith_cells]
    exact h pair (.cells pair)
termination_by sizeOf a

end Value

namespace Store

variable {s : Store} {pending : List CellPair} {pair : CellPair}

/-- The pairs of cells that a comparison of the contents of two cells comes to. -/
def MeetsInside (s : Store) (pair q : CellPair) : Prop :=
  ∃ step a b, s.follow? step pair.left = some a ∧ s.follow? step pair.right = some b ∧
    Value.Meets a b q

/-- The contents of two cells are compared by the cells that this comes to, and no others. -/
theorem equalContents_congr {inner inner' : CellPair → Bool}
    (h : ∀ q, s.MeetsInside pair q → inner q = inner' q) :
    s.equalContents inner pair = s.equalContents inner' pair := by
  rw [Bool.eq_iff_iff, equalContents_iff, equalContents_iff]
  refine alikeIf_congr fun step a b ha hb => ?_
  rw [Value.equalWith_congr a b fun q hq => h q ⟨step, a, b, ha, hb, hq⟩]

/-- How cells are compared, without a bound on anything. -/
inductive Compares (s : Store) : List CellPair → CellPair → Bool → Prop where
  /-- a cell is equal to itself -/
  | identical {pending : List CellPair} {pair : CellPair} (h : pair.isIdentical = true) :
    Compares s pending pair true
  /-- a pair that is being compared already counts as equal -/
  | pending {pending : List CellPair} {pair : CellPair} (h : pair ∈ pending) :
    Compares s pending pair true
  /-- any other pair is compared by its contents, while it is pending itself -/
  | contents {pending : List CellPair} {pair : CellPair} {inner : CellPair → Bool}
    (hidentical : pair.isIdentical = false) (hpending : pair ∉ pending)
    (h : ∀ q, s.MeetsInside pair q → Compares s (pair :: pending) q (inner q)) :
    Compares s pending pair (s.equalContents inner pair)

/-- A comparison has one answer. -/
theorem Compares.unique {answer answer' : Bool} (h : s.Compares pending pair answer)
    (h' : s.Compares pending pair answer') : answer = answer' := by
  induction h generalizing answer' with
  | identical hsame =>
    cases h' with
    | identical => rfl
    | pending => rfl
    | contents hidentical => exact absurd hsame (ne_true_of_eq_false hidentical)
  | pending hmem =>
    cases h' with
    | identical => rfl
    | pending => rfl
    | contents _ hpending => exact absurd hmem hpending
  | contents hidentical hpending _ ih =>
    cases h' with
    | identical hsame => exact absurd hsame (ne_true_of_eq_false hidentical)
    | pending hmem => exact absurd hmem hpending
    | contents _ _ h' => exact equalContents_congr fun q hq => ih q hq (h' q hq)

/-! ## Every comparison ends -/

/-- Every pair of arrays of the store, and every pair of dictionaries. -/
def cellPairs (s : Store) : List CellPair :=
  let places (count : Nat) : List (Nat × Nat) := List.range count ×ˢ List.range count
  (places s.arrays.size).map (fun (i, j) => .arrays ⟨i⟩ ⟨j⟩) ++
    (places s.dicts.size).map (fun (i, j) => .dicts ⟨i⟩ ⟨j⟩)

theorem length_cellPairs (s : Store) : s.cellPairs.length + 1 = s.compareBudget := by
  simp [cellPairs, compareBudget, List.length_product]

/-- A place that holds an element has been handed out. -/
theorem index_lt_of_array {r : ArrayRef} {i : Nat} {v : Value} (h : (s.array r)[i]? = some v) :
    r.index < s.arrays.size := by
  by_contra hnot
  rw [array, Array.getElem?_eq_none (Nat.le_of_not_lt hnot)] at h
  cases h

/-- A place that holds a binding has been handed out. -/
theorem index_lt_of_dict {r : DictRef} {n : Name} {v : Value} (h : (s.dict r).get? n = some v) :
    r.index < s.dicts.size := by
  by_contra hnot
  rw [dict, Array.getElem?_eq_none (Nat.le_of_not_lt hnot)] at h
  cases h

/-- Cells that a step leads into have been handed out. -/
theorem mem_cellPairs {step : Access} {a b : Value} (ha : s.follow? step pair.left = some a)
    (hb : s.follow? step pair.right = some b) : pair ∈ s.cellPairs := by
  cases pair with
  | arrays r t =>
    cases step with
    | index i =>
      have hr := index_lt_of_array ha
      have ht := index_lt_of_array hb
      exact List.mem_append_left _ (List.mem_map.mpr
        ⟨(r.index, t.index), List.mem_product.mpr ⟨List.mem_range.mpr hr, List.mem_range.mpr ht⟩,
          rfl⟩)
    | _ => cases ha
  | dicts r t =>
    cases step with
    | key n =>
      have hr := index_lt_of_dict ha
      have ht := index_lt_of_dict hb
      exact List.mem_append_right _ (List.mem_map.mpr
        ⟨(r.index, t.index), List.mem_product.mpr ⟨List.mem_range.mpr hr, List.mem_range.mpr ht⟩,
          rfl⟩)
    | _ => cases ha

/-- At the beginning of a comparison there is room. -/
theorem hasRoom_compareBudget (s : Store) : HasRoom s.cellPairs s.compareBudget [] :=
  .nil (s.length_cellPairs ▸ Nat.lt_succ_self _)

/-- **Cells are compared to the end**: as long as there is room, the answer that is computed is the
one that the comparison has. -/
theorem compares_equalCells {budget : Nat} (h : HasRoom s.cellPairs budget pending) :
    s.Compares pending pair (s.equalCells budget pending pair) := by
  induction budget generalizing pending pair with
  | zero => exact absurd rfl h.ne_zero
  | succ budget ih =>
    rw [equalCells_succ]
    split
    · next hknown =>
      rw [Bool.or_eq_true, List.contains_iff_mem] at hknown
      exact hknown.elim .identical .pending
    · next hnew =>
      rw [Bool.or_eq_true, List.contains_iff_mem, not_or] at hnew
      refine .contents (eq_false_of_ne_true hnew.1) hnew.2 fun q hq => ?_
      obtain ⟨step, a, b, ha, hb, -⟩ := hq
      exact ih (h.cons hnew.2 (mem_cellPairs ha hb))

/-! ## No difference is missed -/

namespace Distinguishes

variable {path : List Access}

/-- No path leads from references to the same cell to a difference. -/
theorem isSameCell_eq_false {a b : Value} (h : s.Distinguishes path a b) :
    a.isSameCell b = false := by
  cases h with
  | there hcell => exact hcell
  | here h =>
    refine eq_false_of_ne_true fun hsame => ?_
    obtain rfl := Value.eq_of_isSameCell hsame
    cases a with
    | array r => exact h rfl
    | dict r => exact h fun _ => rfl
    | _ => cases hsame

/-- If a path leads from two values to a difference, then a shortest one does. -/
theorem exists_shortest {a b : Value} (h : s.Distinguishes path a b) :
    ∃ shortest, shortest.length ≤ path.length ∧ s.Distinguishes shortest a b ∧
      ∀ other, s.Distinguishes other a b → shortest.length ≤ other.length := by
  obtain ⟨shortest, hshortest, hmin⟩ :=
    (measure List.length).wf.has_min {path | s.Distinguishes path a b} ⟨path, h⟩
  have hle : ∀ other, s.Distinguishes other a b → shortest.length ≤ other.length :=
    fun other hother => Nat.le_of_not_lt (hmin other hother)
  exact ⟨shortest, hle path h, hshortest, hle⟩

end Distinguishes

/-- **A difference between cells is found**, whatever is being compared around them, unless a pair
that is pending has one that is as near. -/
theorem equalCells_eq_false {budget : Nat} {path : List Access}
    (hroom : HasRoom s.cellPairs budget pending) (h : s.Distinguishes path pair.left pair.right)
    (hpending : ∀ q ∈ pending, ∀ other, s.Distinguishes other q.left q.right →
      path.length < other.length) :
    s.equalCells budget pending pair = false := by
  induction budget generalizing pending pair path with
  | zero => exact absurd rfl hroom.ne_zero
  | succ budget ih =>
    obtain ⟨shortest, hle, hshortest, hmin⟩ := h.exists_shortest
    have hidentical : pair.isIdentical = false :=
      pair.isIdentical_eq.trans hshortest.isSameCell_eq_false
    have hnew : pair ∉ pending := fun hmem =>
      absurd (hpending pair hmem shortest hshortest) (Nat.not_lt.mpr hle)
    rw [equalCells_succ, hidentical, Bool.false_or, if_neg (by rwa [List.contains_iff_mem])]
    refine hshortest.equalContents_eq_false fun q other hlt hother => ?_
    -- the path is not empty, so it leads into the cells
    have hmem : pair ∈ s.cellPairs := by
      cases hshortest with
      | here => exact absurd hlt (Nat.not_lt_zero _)
      | there _ ha hb => exact mem_cellPairs ha hb
    refine ih (hroom.cons hnew hmem) hother fun q' hq' other' hother' => ?_
    rcases List.mem_cons.mp hq' with rfl | hq'
    · exact hlt.trans_le (hmin other' hother')
    · exact (hlt.trans_le hle).trans (hpending q' hq' other' hother')

end Store

/-! ## Equality -/

namespace Value

/-- How values are compared, without a bound on anything. -/
def ComparesTo (s : Store) (a b : Value) (answer : Bool) : Prop :=
  ∃ cells : CellPair → Bool, (∀ pair, Meets a b pair → s.Compares [] pair (cells pair)) ∧
    answer = equalWith cells a b

variable {s : Store} {a b : Value}

/-- The comparison of two values ends with the answer that is computed, and with no other. -/
theorem comparesTo_iff {answer : Bool} : ComparesTo s a b answer ↔ answer = a.equal s b := by
  have hcells (pair : CellPair) : s.Compares [] pair (s.equalCells s.compareBudget [] pair) :=
    Store.compares_equalCells s.hasRoom_compareBudget
  constructor
  · rintro ⟨cells, h, rfl⟩
    exact equalWith_congr a b fun pair hmeets => (h pair hmeets).unique (hcells pair)
  · rintro rfl
    exact ⟨_, fun pair _ => hcells pair, rfl⟩

/-- Values are told apart if a path leads from them to a difference, and only then. -/
theorem equal_eq_false_iff : a.equal s b = false ↔ ∃ path, s.Distinguishes path a b := by
  constructor
  · exact Store.exists_distinguishes_of_equalWith
      (fun _ => Store.isDistinguished_of_equalCells) a b
  · rintro ⟨path, hpath⟩
    refine hpath.equalWith_eq_false fun pair other _ hother => ?_
    exact Store.equalCells_eq_false s.hasRoom_compareBudget hother fun q hq =>
      absurd hq List.not_mem_nil

/-- Values that are equal are equal from either side. -/
theorem equal_comm (s : Store) (a b : Value) : a.equal s b = b.equal s a := by
  have hsymm (a b : Value) (h : a.equal s b = false) : b.equal s a = false := by
    obtain ⟨path, hpath⟩ := equal_eq_false_iff.mp h
    exact equal_eq_false_iff.mpr ⟨path, hpath.symm⟩
  rw [Bool.eq_iff_iff, ← Bool.not_eq_false, ← Bool.not_eq_false]
  exact not_congr ⟨hsymm a b, hsymm b a⟩

/-- Two values that are equal to a third are equal. -/
theorem equal_trans {c : Value} (hab : a.equal s b = true) (hbc : b.equal s c = true) :
    a.equal s c = true := by
  refine eq_true_of_ne_false fun hac => ?_
  obtain ⟨path, hpath⟩ := equal_eq_false_iff.mp hac
  obtain h | h := hpath.between b
  · exact ne_true_of_eq_false (equal_eq_false_iff.mpr h) hab
  · exact ne_true_of_eq_false (equal_eq_false_iff.mpr h) hbc

/-- **Equality is indistinguishability**, in every store, whatever cells contain themselves or each
other. The comparison of two values ends, with one answer. They are equal if and only if no path
leads from them to a difference. So equality is symmetric and transitive. -/
theorem equal_iff_indistinguishable (s : Store) (a b : Value) :
    (∀ answer, ComparesTo s a b answer ↔ answer = a.equal s b) ∧
      (a.equal s b = true ↔ ∀ path, ¬ s.Distinguishes path a b) ∧
      a.equal s b = b.equal s a ∧
      ∀ c, a.equal s b = true → b.equal s c = true → a.equal s c = true := by
  refine ⟨fun _ => comparesTo_iff, ?_, equal_comm s a b, fun _ => equal_trans⟩
  rw [← Bool.not_eq_false, equal_eq_false_iff, not_exists]

/-- A store with two arrays that hold a one and themselves. -/
def twoRings : Store where
  arrays := #[#[.number (.int 1), .array ⟨0⟩], #[.number (.int 1), .array ⟨1⟩]]
  dicts := #[]

/-- Two such arrays are equal, to each other and so to themselves. -/
theorem equal_iff_indistinguishable_of_rings :
    equal twoRings (.array ⟨0⟩) (.array ⟨1⟩) = true ∧
      (∀ path, ¬ twoRings.Distinguishes path (.array ⟨0⟩) (.array ⟨1⟩)) ∧
      equal twoRings (.array ⟨0⟩) (.array ⟨0⟩) = true := by
  have hequal : equal twoRings (.array ⟨0⟩) (.array ⟨1⟩) = true := by decide
  obtain ⟨-, hiff, hsymm, htrans⟩ := equal_iff_indistinguishable twoRings (.array ⟨0⟩) (.array ⟨1⟩)
  exact ⟨hequal, hiff.mp hequal, htrans _ hequal (hsymm.symm.trans hequal)⟩

end Value

end StackScript
