import Mathlib.Data.List.Forall2

/-!
# Nesting

In a sequence some elements can open something that others close again, as the braces of a program
do, and the brackets of an array literal. How they are paired does not depend on what they are, and
so it is said here for any `Bracketing`: a sequence is paired if no beginning of it closes more than
it opens, and the whole closes what it opens.

Such a sequence is read from left to right, each element as something, and what is read as a stretch
between two brackets is such a stretch itself (`exists_enclosed_of_forall₂`). Reading stops at the
first element that offends, and if none does, at what has been left open. Both are at one place
only (`place_unique_of_first`, `Bracketing.place_unique_of_open`), so the reason that is found is
the only one there is.
-/

namespace StackScript

variable {α β ε σ : Type}

/-! ## Paired sequences -/

/-- Which elements of a sequence open something, and which close it. -/
structure Bracketing (α : Type) where
  /-- whether an element opens something -/
  opens : α → Bool
  /-- whether an element closes something -/
  closes : α → Bool
  /-- no element does both -/
  exclusive : ∀ {a}, opens a = true → closes a = false

namespace Bracketing

/-- How many elements open something. -/
def openings (b : Bracketing α) (items : List α) : Nat :=
  items.countP b.opens

/-- How many elements close something. -/
def closings (b : Bracketing α) (items : List α) : Nat :=
  items.countP b.closes

/-- What is opened in a sequence is closed in it, and nothing else is. -/
structure IsPaired (b : Bracketing α) (items : List α) : Prop where
  /-- no beginning closes more than it opens -/
  closes : ∀ n, b.closings (items.take n) ≤ b.openings (items.take n)
  /-- the whole closes as much as it opens -/
  complete : b.closings items = b.openings items

variable {b : Bracketing α} {items before after : List α} {a first last : α}

section Count

@[simp] theorem openings_nil : b.openings [] = 0 :=
  rfl

@[simp] theorem closings_nil : b.closings [] = 0 :=
  rfl

@[simp] theorem openings_append (before after : List α) :
    b.openings (before ++ after) = b.openings before + b.openings after :=
  List.countP_append

@[simp] theorem closings_append (before after : List α) :
    b.closings (before ++ after) = b.closings before + b.closings after :=
  List.countP_append

theorem openings_of_opens (h : b.opens a = true) (rest : List α) :
    b.openings (a :: rest) = b.openings rest + 1 :=
  List.countP_cons_of_pos h

theorem closings_of_opens (h : b.opens a = true) (rest : List α) :
    b.closings (a :: rest) = b.closings rest :=
  List.countP_cons_of_neg (by simp [b.exclusive h])

theorem openings_of_closes (h : b.closes a = true) (rest : List α) :
    b.openings (a :: rest) = b.openings rest := by
  refine List.countP_cons_of_neg fun hopens => ?_
  rw [b.exclusive hopens] at h
  cases h

theorem closings_of_closes (h : b.closes a = true) (rest : List α) :
    b.closings (a :: rest) = b.closings rest + 1 :=
  List.countP_cons_of_pos h

theorem openings_of_not_opens (h : b.opens a = false) (rest : List α) :
    b.openings (a :: rest) = b.openings rest :=
  List.countP_cons_of_neg (by simp [h])

theorem closings_of_not_closes (h : b.closes a = false) (rest : List α) :
    b.closings (a :: rest) = b.closings rest :=
  List.countP_cons_of_neg (by simp [h])

end Count

namespace IsPaired

theorem nil : b.IsPaired [] :=
  ⟨fun n => by simp, rfl⟩

/-- An element that opens nothing and closes nothing. -/
theorem single (hopens : b.opens a = false) (hcloses : b.closes a = false) : b.IsPaired [a] := by
  have hcount : b.openings [a] = 0 ∧ b.closings [a] = 0 := by
    simp [openings, closings, hopens, hcloses]
  refine ⟨fun n => ?_, hcount.2.trans hcount.1.symm⟩
  cases n with
  | zero => simp
  | succ n => simp [hcount]

theorem append (hbefore : b.IsPaired before) (hafter : b.IsPaired after) :
    b.IsPaired (before ++ after) := by
  refine ⟨fun n => ?_, by simp [hbefore.complete, hafter.complete]⟩
  have hfirst := hbefore.closes n
  have hsecond := hafter.closes (n - before.length)
  simp only [List.take_append, openings_append, closings_append]
  omega

/-- A paired sequence between an element that opens something and one that closes it. -/
theorem enclosed (h : b.IsPaired items) (hfirst : b.opens first = true)
    (hlast : b.closes last = true) : b.IsPaired (first :: items ++ [last]) := by
  have hone : b.openings [last] = 0 ∧ b.closings [last] = 1 :=
    ⟨openings_of_closes hlast [], closings_of_closes hlast []⟩
  refine ⟨fun n => ?_, ?_⟩
  · cases n with
    | zero => simp
    | succ n =>
      have hinner := h.closes n
      have hend : b.closings ([last].take (n - items.length)) ≤ 1 := by
        cases n - items.length <;> simp [hone]
      simp only [List.cons_append, List.take_succ_cons, List.take_append,
        openings_of_opens hfirst, closings_of_opens hfirst, openings_append, closings_append]
      omega
  · simp only [List.cons_append, openings_of_opens hfirst, closings_of_opens hfirst,
      openings_append, closings_append, h.complete, hone]

/-- Every beginning closes at most as much as it opens. -/
theorem closings_le (h : b.IsPaired (before ++ after)) : b.closings before ≤ b.openings before := by
  have hcloses := h.closes before.length
  rwa [List.take_left] at hcloses

/-- Nothing stays open. -/
theorem not_opens (h : b.IsPaired (before ++ a :: after)) (hafter : b.IsPaired after) :
    b.opens a = false := by
  have hbefore := h.closings_le
  have hcomplete := h.complete
  by_contra hopens
  rw [Bool.not_eq_false] at hopens
  simp only [openings_append, closings_append, openings_of_opens hopens, closings_of_opens hopens,
    hafter.complete] at hcomplete
  omega

/-- Nothing is closed that is not open. -/
theorem not_closes (h : b.IsPaired (before ++ a :: after))
    (hbefore : b.closings before = b.openings before) : b.closes a = false := by
  rw [List.append_cons] at h
  have hle := h.closings_le
  by_contra hcloses
  rw [Bool.not_eq_false] at hcloses
  simp only [openings_append, closings_append, openings_of_closes hcloses,
    closings_of_closes hcloses, openings_nil, closings_nil, hbefore] at hle
  omega

end IsPaired

/-- Where the elements stand that a beginning of a sequence leaves open, the innermost first. The
sequence is paired between one and the next, and after the last. -/
inductive Leaves (b : Bracketing α) (place : α → σ) : List α → List σ → Prop where
  /-- none -/
  | none {items : List α} (h : b.IsPaired items) : Leaves b place items []
  /-- one more -/
  | opened {before after : List α} {a : α} {places : List σ} (h : Leaves b place before places)
    (ha : b.opens a = true) (hafter : b.IsPaired after) :
    Leaves b place (before ++ a :: after) (place a :: places)

namespace Leaves

variable {place : α → σ} {innermost : σ} {places : List σ}

/-- A paired sequence leaves nothing more open. -/
theorem append (h : b.Leaves place items places) (hafter : b.IsPaired after) :
    b.Leaves place (items ++ after) places := by
  cases h with
  | none hitems => exact .none (hitems.append hafter)
  | opened hbefore ha hlast =>
    rw [List.append_assoc, List.cons_append]
    exact .opened hbefore ha (hlast.append hafter)

/-- An element that opens something is left open. -/
theorem opening (h : b.Leaves place items places) (ha : b.opens a = true) :
    b.Leaves place (items ++ [a]) (place a :: places) :=
  .opened h ha .nil

/-- Behind the innermost element that is left open the sequence is paired. -/
theorem exists_of_cons (h : b.Leaves place items (innermost :: places)) :
    ∃ before a after, items = before ++ a :: after ∧ b.opens a = true ∧ place a = innermost ∧
      b.Leaves place before places ∧ b.IsPaired after := by
  cases h with
  | opened hbefore ha hafter => exact ⟨_, _, _, rfl, ha, rfl, hbefore, hafter⟩

/-- An element that closes something closes the innermost one. -/
theorem closing (h : b.Leaves place items (innermost :: places)) (ha : b.closes a = true) :
    b.Leaves place (items ++ [a]) places := by
  obtain ⟨before, first, after, rfl, hopens, -, hbefore, hafter⟩ := h.exists_of_cons
  rw [List.append_assoc]
  exact hbefore.append (hafter.enclosed hopens ha)

/-- As many are open as have been opened and not closed. -/
theorem openings_eq (h : b.Leaves place items places) :
    b.openings items = b.closings items + places.length := by
  induction h with
  | none h => exact h.complete.symm
  | opened _ ha hafter ih =>
    simp only [openings_append, closings_append, openings_of_opens ha, closings_of_opens ha, ih,
      hafter.complete, List.length_cons]
    omega

end Leaves

end Bracketing

/-! ## Sequences read element by element -/

section Related

variable {R : α → β → Prop} {as : List α} {bs first second : List β} {b opening closing : β}

/-- What is related to a member of the second list is a member of the first. -/
theorem exists_mem_of_forall₂ (h : List.Forall₂ R as bs) (hb : b ∈ bs) : ∃ a ∈ as, R a b := by
  induction h with
  | nil => cases hb
  | cons hab _ ih =>
    rcases List.mem_cons.mp hb with rfl | hb
    · exact ⟨_, List.mem_cons_self, hab⟩
    · obtain ⟨a, ha, hr⟩ := ih hb
      exact ⟨a, List.mem_cons_of_mem _ ha, hr⟩

/-- What is read as two stretches, one after the other, is two stretches itself. -/
theorem exists_append_of_forall₂ (h : List.Forall₂ R as (first ++ second)) :
    ∃ before after, as = before ++ after ∧ List.Forall₂ R before first ∧
      List.Forall₂ R after second :=
  ⟨_, _, (List.take_append_drop first.length as).symm, List.forall₂_take_append _ _ _ h,
    List.forall₂_drop_append _ _ _ h⟩

/-- What is read as a stretch between two elements is a stretch between two elements itself. -/
theorem exists_enclosed_of_forall₂ (h : List.Forall₂ R as (opening :: bs ++ [closing])) :
    ∃ first inside last, as = first :: inside ++ [last] ∧ R first opening ∧
      List.Forall₂ R inside bs ∧ R last closing := by
  obtain ⟨front, back, rfl, hfront, hback⟩ := exists_append_of_forall₂ h
  obtain ⟨first, inside, hfirst, hinside, rfl⟩ := List.forall₂_cons_right_iff.mp hfront
  obtain ⟨last, none, hlast, hnone, rfl⟩ := List.forall₂_cons_right_iff.mp hback
  obtain rfl := List.forall₂_nil_right_iff.mp hnone
  exact ⟨first, inside, last, rfl, hfirst, hinside, hlast⟩

end Related

/-! ## Places in a sequence -/

section Places

variable {items before after before' after' : List α} {a a' : α}

/-- Two places in the same sequence are one place, or one stands before the other. -/
theorem places_cases (h : before ++ a :: after = before' ++ a' :: after') :
    (before = before' ∧ a = a') ∨
      (∃ between, before' = before ++ a :: between ∧ after = between ++ a' :: after') ∨
      ∃ between, before = before' ++ a' :: between ∧ after' = between ++ a :: after := by
  rcases List.append_eq_append_iff.mp h with ⟨between, hbefore, hrest⟩ | ⟨between, hbefore, hrest⟩
  all_goals
    cases between with
    | nil =>
      rw [List.append_nil] at hbefore
      obtain ⟨ha, -⟩ := List.cons.inj hrest
      simp [hbefore, ha]
    | cons first between =>
      obtain ⟨rfl, hafter⟩ := List.cons.inj hrest
      simp [hbefore, hafter]

/-- No element of a sequence offends, after those that stand before it. -/
def Blameless (offends : List α → α → ε → Prop) (items : List α) : Prop :=
  ∀ before a after e, items = before ++ a :: after → ¬ offends before a e

variable {offends : List α → α → ε → Prop}

theorem Blameless.nil : Blameless offends [] := by
  intro before a after e h
  cases before <;> cases h

/-- No element offends if none does but for the last and the last does not either. -/
theorem Blameless.concat (h : Blameless offends items) (ha : ∀ e, ¬ offends items a e) :
    Blameless offends (items ++ [a]) := by
  intro before other after e hsplit hoffends
  rcases List.eq_nil_or_concat after with rfl | ⟨init, last, rfl⟩
  · obtain ⟨rfl, hlast⟩ := List.append_inj' hsplit rfl
    obtain rfl := List.singleton_inj.mp hlast
    exact ha e hoffends
  · rw [List.concat_eq_append, ← List.cons_append, ← List.append_assoc] at hsplit
    obtain ⟨rfl, -⟩ := List.append_inj' hsplit rfl
    exact h before other init e rfl hoffends

/-- The first element to offend stands at one place only. -/
theorem place_unique_of_first {e e' : ε} (h : before ++ a :: after = before' ++ a' :: after')
    (hfirst : Blameless offends before) (hoffends : offends before a e)
    (hfirst' : Blameless offends before') (hoffends' : offends before' a' e') :
    before = before' ∧ a = a' := by
  rcases places_cases h with hsame | ⟨between, hbefore, -⟩ | ⟨between, hbefore, -⟩
  · exact hsame
  · exact absurd hoffends (hfirst' before a between _ hbefore)
  · exact absurd hoffends' (hfirst before' a' between _ hbefore)

/-- The last element that opens something which stays open stands at one place only. -/
theorem Bracketing.place_unique_of_open {b : Bracketing α}
    (h : before ++ a :: after = before' ++ a' :: after') (hopens : b.opens a = true)
    (hafter : b.IsPaired after) (hopens' : b.opens a' = true) (hafter' : b.IsPaired after') :
    before = before' ∧ a = a' := by
  rcases places_cases h with hsame | ⟨between, -, rfl⟩ | ⟨between, -, rfl⟩
  · exact hsame
  · rw [hafter.not_opens hafter'] at hopens'
    cases hopens'
  · rw [hafter'.not_opens hafter] at hopens
    cases hopens

end Places

end StackScript
