import StackScript.Proofs.Value.Difference

/-!
# What a comparison looks at

`Value.equalWith` goes through two values, and `Store.equalContents` through two cells, in the same
way: they are alike if they do not differ at first sight and if whatever a step into both of them
leads to is equal again (`Value.equalWith_iff`, `Store.equalContents_iff`). This ties the comparison
to the paths of `StackScript.Proofs.Value.Difference`, in both directions.

A comparison that tells cells apart has come to a difference, since all that it takes for granted is
that cells are equal (`isDistinguished_of_equalCells`). That a difference is found is a matter of
the shortest path to one: if every pair that is distinguished by a shorter path is told apart, then
so is the pair that this path distinguishes (`Distinguishes.equalContents_eq_false`).
-/

namespace StackScript

/-! ## One step of a comparison -/

/-- Two values do not differ at first sight, and whatever a step into both of them leads to is
related. -/
def Store.AlikeIf (s : Store) (related : Value → Value → Prop) (a b : Value) : Prop :=
  ¬ s.Differs a b ∧ ∀ step a' b', s.follow? step a = some a' → s.follow? step b = some b' →
    related a' b'

/-- Two values that are not alike differ, or a step leads to two that are not related. -/
theorem Store.not_alikeIf {s : Store} {related : Value → Value → Prop} {a b : Value}
    (h : ¬ s.AlikeIf related a b) : s.Differs a b ∨ ∃ step a' b',
      s.follow? step a = some a' ∧ s.follow? step b = some b' ∧ ¬ related a' b' := by
  by_cases hdiffers : s.Differs a b
  · exact .inl hdiffers
  · refine .inr (by_contra fun hnone => h ⟨hdiffers, fun step a' b' ha hb => ?_⟩)
    exact by_contra fun hnot => hnone ⟨step, a', b', ha, hb, hnot⟩

/-- Being alike depends on what is related after a step, and on nothing further in. -/
theorem Store.alikeIf_congr {s : Store} {related related' : Value → Value → Prop} {a b : Value}
    (h : ∀ step a' b', s.follow? step a = some a' → s.follow? step b = some b' →
      (related a' b' ↔ related' a' b')) : s.AlikeIf related a b ↔ s.AlikeIf related' a b :=
  and_congr_right fun _ => forall_congr' fun step => forall_congr' fun a' => forall_congr' fun b' =>
    forall_congr' fun ha => forall_congr' fun hb => h step a' b' ha hb

namespace CellPair

/-- The first place of a pair, as a value. -/
def left : CellPair → Value
  | .arrays r _ => .array r
  | .dicts r _ => .dict r

/-- The second place of a pair, as a value. -/
def right : CellPair → Value
  | .arrays _ t => .array t
  | .dicts _ t => .dict t

/-- The places of a pair are the same if they are as values. -/
theorem isIdentical_eq (pair : CellPair) : pair.isIdentical = pair.left.isSameCell pair.right := by
  cases pair <;> rfl

end CellPair

namespace Value

/-- The pair of cells that two references to arrays, or to dictionaries, refer to. -/
def cellPair? : Value → Value → Option CellPair
  | .array r, .array t => some (.arrays r t)
  | .dict r, .dict t => some (.dicts r t)
  | _, _ => none

variable {cells : CellPair → Bool} {a b : Value} {pair : CellPair}

theorem eq_of_cellPair? (h : a.cellPair? b = some pair) : a = pair.left ∧ b = pair.right := by
  cases a <;> cases b <;> cases h <;> exact ⟨rfl, rfl⟩

/-- Two references to cells are equal if the cells are said to be. -/
theorem equalWith_cells (pair : CellPair) : equalWith cells pair.left pair.right = cells pair := by
  cases pair <;> simp [CellPair.left, CellPair.right, equalWith]

/-- Sequences are equal if they are of the same length and equal at every position. -/
theorem equalAllWith_iff {as bs : List Value} :
    equalAllWith cells as bs = true ↔ as.length = bs.length ∧
      ∀ (i : Nat) (a b : Value), as[i]? = some a → bs[i]? = some b →
        equalWith cells a b = true := by
  induction as generalizing bs with
  | nil => cases bs <;> simp [equalAllWith]
  | cons a as ih =>
    cases bs with
    | nil => simp [equalAllWith]
    | cons b bs =>
      rw [equalAllWith, Bool.and_eq_true, ih, List.length_cons, List.length_cons,
        Nat.add_right_cancel_iff]
      constructor
      · rintro ⟨hhead, hlength, htail⟩
        refine ⟨hlength, fun i x y hx hy => ?_⟩
        cases i with
        | zero =>
          cases hx
          cases hy
          exact hhead
        | succ i => exact htail i x y hx hy
      · rintro ⟨hlength, hall⟩
        exact ⟨hall 0 a b rfl rfl, hlength, fun i x y hx hy => hall (i + 1) x y hx hy⟩

/-- Values that are not both references to cells of the same kind are equal if they do not differ at
first sight and are equal after every step that leads into both. -/
theorem equalWith_iff (s : Store) (h : a.cellPair? b = none) :
    equalWith cells a b = true ↔ s.AlikeIf (equalWith cells · · = true) a b := by
  -- values of different kinds are not equal, and they differ
  cases a <;> cases b <;> first
    | (cases h; done)
    | exact iff_of_false Bool.false_ne_true fun hnot => hnot.1 trivial
    | skip
  case proc.proc as bs =>
    rw [equalWith, equalAllWith_iff]
    refine ⟨fun ⟨hlength, hall⟩ => ⟨not_not.mpr hlength, fun step a' b' ha hb => ?_⟩,
      fun ⟨hdiffers, hall⟩ => ⟨not_not.mp hdiffers, fun i => hall (.position i)⟩⟩
    cases step with
    | position i => exact hall i a' b' ha hb
    | _ => cases ha
  -- what is left contains nothing that a step could lead to
  all_goals simp [equalWith, Store.AlikeIf, Store.Differs, Store.follow?]

end Value

namespace Dictionary

/-- A name is bound if it is the name of a binding. -/
theorem isSome_get?_iff {d : Dictionary} {n : Name} :
    (d.get? n).isSome = true ↔ n ∈ d.entries.map Prod.fst := by
  simp [Option.isSome_iff_exists, get?_eq_some_iff]

/-- Two dictionaries of the same size, of which the second binds every name of the first, bind the
same names. -/
theorem isSome_get?_eq {d e : Dictionary} (hsize : d.size = e.size)
    (h : ∀ n, (d.get? n).isSome = true → (e.get? n).isSome = true) (n : Name) :
    (d.get? n).isSome = (e.get? n).isSome := by
  have hsubset : d.entries.map Prod.fst ⊆ e.entries.map Prod.fst := fun m hm =>
    isSome_get?_iff.mp (h m (isSome_get?_iff.mpr hm))
  have hlength : (e.entries.map Prod.fst).length ≤ (d.entries.map Prod.fst).length := by
    rw [List.length_map, List.length_map]
    exact hsize.ge
  have hperm := (d.nodup.subperm hsubset).perm_of_length_le hlength
  rw [Bool.eq_iff_iff, isSome_get?_iff, isSome_get?_iff, hperm.mem_iff]

/-- Two dictionaries that bind the same names are of the same size. -/
theorem size_eq {d e : Dictionary} (h : ∀ n, (d.get? n).isSome = (e.get? n).isSome) :
    d.size = e.size := by
  have hperm : (d.entries.map Prod.fst).Perm (e.entries.map Prod.fst) :=
    (List.perm_ext_iff_of_nodup d.nodup e.nodup).mpr fun n => by
      rw [← isSome_get?_iff, ← isSome_get?_iff, h n]
  simpa [size] using hperm.length_eq

/-- Dictionaries are equal if they bind the same names, to equal values. -/
theorem equalWith_iff {cells : CellPair → Bool} {d e : Dictionary} :
    d.equalWith cells e = true ↔ (∀ n, (d.get? n).isSome = (e.get? n).isSome) ∧
      ∀ n v w, d.get? n = some v → e.get? n = some w → Value.equalWith cells v w = true := by
  rw [equalWith, Bool.and_eq_true, beq_iff_eq, List.all_eq_true]
  constructor
  · rintro ⟨hsize, hall⟩
    refine ⟨isSome_get?_eq hsize fun n hn => ?_, fun n v w hv hw => ?_⟩
    · obtain ⟨v, hv⟩ := Option.isSome_iff_exists.mp hn
      have hentry := hall (n, v) (get?_eq_some_iff.mp hv)
      dsimp only at hentry
      rcases hw : e.get? n with _ | w
      · rw [hw] at hentry
        cases hentry
      · rfl
    · have hentry := hall (n, v) (get?_eq_some_iff.mp hv)
      dsimp only at hentry
      rw [hw] at hentry
      exact hentry
  · rintro ⟨hnames, hall⟩
    refine ⟨size_eq hnames, fun ⟨n, v⟩ hmem => ?_⟩
    have hv : d.get? n = some v := get?_eq_some_iff.mpr hmem
    have hbound := hnames n
    rw [hv] at hbound
    obtain ⟨w, hw⟩ := Option.isSome_iff_exists.mp hbound.symm
    rw [hw]
    exact hall n v w hv hw

end Dictionary

namespace Store

/-- Equality of the contents of two cells, where the equality of cells is given. -/
def equalContents (s : Store) (inner : CellPair → Bool) : CellPair → Bool
  | .arrays r t => Value.equalAllWith inner (s.array r).toList (s.array t).toList
  | .dicts r t => (s.dict r).equalWith inner (s.dict t)

/-- The contents of two cells are equal if the cells do not differ at first sight and are equal
after every step that leads into both. -/
theorem equalContents_iff {s : Store} {inner : CellPair → Bool} {pair : CellPair} :
    s.equalContents inner pair = true ↔
      s.AlikeIf (Value.equalWith inner · · = true) pair.left pair.right := by
  cases pair with
  | arrays r t =>
    rw [equalContents, Value.equalAllWith_iff]
    simp only [Array.length_toList, Array.getElem?_toList]
    refine ⟨fun ⟨hsize, hall⟩ => ⟨not_not.mpr hsize, fun step a b ha hb => ?_⟩,
      fun ⟨hdiffers, hall⟩ => ⟨not_not.mp hdiffers, fun i => hall (.index i)⟩⟩
    cases step with
    | index i => exact hall i a b ha hb
    | _ => cases ha
  | dicts r t =>
    rw [equalContents, Dictionary.equalWith_iff]
    refine ⟨fun ⟨hnames, hall⟩ => ⟨not_not.mpr hnames, fun step a b ha hb => ?_⟩,
      fun ⟨hdiffers, hall⟩ => ⟨not_not.mp hdiffers, fun n => hall (.key n)⟩⟩
    cases step with
    | key n => exact hall n a b ha hb
    | _ => cases ha

theorem equalCells_succ (s : Store) (budget : Nat) (pending : List CellPair) (pair : CellPair) :
    s.equalCells (budget + 1) pending pair =
      if pair.isIdentical || pending.contains pair then true
      else s.equalContents (s.equalCells budget (pair :: pending)) pair := by
  rw [equalCells]
  cases pair <;> rfl

/-! ## Answers are backed by differences -/

/-- Whether some path leads from the places of a pair to a difference. -/
def IsDistinguished (s : Store) (pair : CellPair) : Prop :=
  ∃ path, s.Distinguishes path pair.left pair.right

/-- Values that are not both references to cells of the same kind are not references to the same
cell. -/
theorem isSameCell_eq_false {a b : Value} (h : a.cellPair? b = none) : a.isSameCell b = false := by
  cases a <;> cases b <;> first
    | rfl
    | cases h

/-- A step into two values that are not both references to cells is one into two procedures. -/
theorem eq_proc_of_follow? {s : Store} {a b a' b' : Value} {step : Access}
    (h : a.cellPair? b = none) (ha : s.follow? step a = some a')
    (hb : s.follow? step b = some b') :
    ∃ as bs i, a = .proc as ∧ b = .proc bs ∧ step = .position i := by
  cases step with
  | index i =>
    cases a with
    | array r =>
      cases b with
      | array t => cases h
      | _ => cases hb
    | _ => cases ha
  | key n =>
    cases a with
    | dict r =>
      cases b with
      | dict t => cases h
      | _ => cases hb
    | _ => cases ha
  | position i =>
    cases a with
    | proc as =>
      cases b with
      | proc bs => exact ⟨as, bs, i, rfl, rfl, rfl⟩
      | _ => cases hb
    | _ => cases ha

/-- Such a step leads to a smaller value. -/
theorem sizeOf_lt_of_follow? {s : Store} {a b a' b' : Value} {step : Access}
    (h : a.cellPair? b = none) (ha : s.follow? step a = some a')
    (hb : s.follow? step b = some b') : sizeOf a' < sizeOf a := by
  obtain ⟨as, bs, i, rfl, rfl, rfl⟩ := eq_proc_of_follow? h ha hb
  have hlt := List.sizeOf_lt_of_mem (List.mem_of_getElem? ha)
  rw [Value.proc.sizeOf_spec]
  omega

/-- If the cells that are told apart are distinguished, then so are the values that are told
apart. -/
theorem exists_distinguishes_of_equalWith {s : Store} {cells : CellPair → Bool}
    (hcells : ∀ pair, cells pair = false → s.IsDistinguished pair) (a b : Value)
    (h : Value.equalWith cells a b = false) : ∃ path, s.Distinguishes path a b := by
  rcases hpair : a.cellPair? b with _ | pair
  · -- the values are gone into
    have hnot := mt (Value.equalWith_iff s hpair).mpr (ne_true_of_eq_false h)
    obtain hdiffers | ⟨step, a', b', ha, hb, hne⟩ := not_alikeIf hnot
    · exact ⟨_, .here hdiffers⟩
    · have hsmaller := sizeOf_lt_of_follow? hpair ha hb
      obtain ⟨path, hpath⟩ := exists_distinguishes_of_equalWith hcells a' b'
        (eq_false_of_ne_true hne)
      exact ⟨_, .there (isSameCell_eq_false hpair) ha hb hpath⟩
  · obtain ⟨rfl, rfl⟩ := Value.eq_of_cellPair? hpair
    rw [Value.equalWith_cells] at h
    exact hcells pair h
termination_by sizeOf a

/-- **Every difference that is reported is there**: cells that are told apart, whatever is being
compared around them, are distinguished by a path. -/
theorem isDistinguished_of_equalCells {s : Store} {budget : Nat} {pending : List CellPair}
    {pair : CellPair} (h : s.equalCells budget pending pair = false) : s.IsDistinguished pair := by
  induction budget generalizing pending pair with
  | zero => cases h
  | succ budget ih =>
    rw [equalCells_succ] at h
    split at h
    · cases h
    · next hnew =>
      rw [Bool.or_eq_true, not_or, CellPair.isIdentical_eq] at hnew
      have hcell := eq_false_of_ne_true hnew.1
      have hnot := mt equalContents_iff.mpr (ne_true_of_eq_false h)
      obtain hdiffers | ⟨step, a, b, ha, hb, hne⟩ := not_alikeIf hnot
      · exact ⟨_, .here hdiffers⟩
      · obtain ⟨path, hpath⟩ := exists_distinguishes_of_equalWith (fun _ => ih) a b
          (eq_false_of_ne_true hne)
        exact ⟨_, .there hcell ha hb hpath⟩

/-! ## Differences are found -/

/-- If the cells that are distinguished by a path no longer than this one are told apart, then so
are the values that this one distinguishes. -/
theorem Distinguishes.equalWith_eq_false {s : Store} {cells : CellPair → Bool} {path : List Access}
    {a b : Value} (h : s.Distinguishes path a b)
    (hcells : ∀ pair path', path'.length ≤ path.length →
      s.Distinguishes path' pair.left pair.right → cells pair = false) :
    Value.equalWith cells a b = false := by
  induction h with
  | @here a b h =>
    rcases hpair : a.cellPair? b with _ | pair
    · exact eq_false_of_ne_true fun heq => ((Value.equalWith_iff s hpair).mp heq).1 h
    · obtain ⟨rfl, rfl⟩ := Value.eq_of_cellPair? hpair
      rw [Value.equalWith_cells]
      exact hcells pair [] le_rfl (.here h)
  | @there step path a b a' b' hcell ha hb h ih =>
    rcases hpair : a.cellPair? b with _ | pair
    · have hfurther := ih fun pair path' hlength =>
        hcells pair path' (hlength.trans (Nat.le_succ _))
      refine eq_false_of_ne_true fun heq => ?_
      rw [((Value.equalWith_iff s hpair).mp heq).2 step a' b' ha hb] at hfurther
      cases hfurther
    · obtain ⟨rfl, rfl⟩ := Value.eq_of_cellPair? hpair
      rw [Value.equalWith_cells]
      exact hcells pair _ le_rfl (.there hcell ha hb h)

/-- If the cells that are distinguished by a shorter path are told apart, then so are the contents
of the cells that this one distinguishes. -/
theorem Distinguishes.equalContents_eq_false {s : Store} {inner : CellPair → Bool}
    {path : List Access} {pair : CellPair} (h : s.Distinguishes path pair.left pair.right)
    (hinner : ∀ q path', path'.length < path.length →
      s.Distinguishes path' q.left q.right → inner q = false) :
    s.equalContents inner pair = false := by
  refine eq_false_of_ne_true fun heq => ?_
  obtain ⟨hsame, hall⟩ := equalContents_iff.mp heq
  cases h with
  | here h => exact hsame h
  | there hcell ha hb h =>
    have hfurther := h.equalWith_eq_false fun q path' hlength =>
      hinner q path' (Nat.lt_succ_of_le hlength)
    rw [hall _ _ _ ha hb] at hfurther
    cases hfurther

end Store

end StackScript
