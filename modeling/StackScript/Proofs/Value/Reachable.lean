import Mathlib.Data.Set.Insert
import StackScript.Proofs.Run.Step
import StackScript.Store.Load
import StackScript.Value.Inspect

/-!
# What can be reached from a value

A value refers to places of the store, procedures through what is in their bodies, and what is in
these places refers to further ones (`Store.Reachable`). A place *holds data* if no operator, bare
name or unknown symbol is in it, and, if it is that of a dictionary, only names are bound that may
be defined.

That all of what can be reached holds data is a property of the whole store, and it is kept up by
way of a set of places: `Store.Sound` says that the places of a set hold data and refer only to
places of the set again. So no more can be reached from a value that refers only to places of the
set (`Value.Within`), and to keep a set sound it suffices to look at the place that is written.
-/

namespace StackScript

/-! ## Reaching places -/

/-- A value refers to a place. -/
inductive Value.Mentions : Value → Cell → Prop where
  /-- an array is at its place -/
  | array (r : ArrayRef) : Mentions (.array r) (.array r)
  /-- a dictionary is at its place -/
  | dict (r : DictRef) : Mentions (.dict r) (.dict r)
  /-- a procedure refers to what the elements of its body refer to -/
  | inside {body : List Value} {v : Value} {c : Cell} (hv : v ∈ body) (h : Mentions v c) :
    Mentions (.proc body) c

namespace Store

/-- A value is an element of the array, or the value of a binding of the dictionary, at a place. -/
def Contains (s : Store) (v : Value) : Cell → Prop
  | .array r => v ∈ s.array r
  | .dict r => ∃ n, (s.dict r).get? n = some v

/-- A place can be reached from a value. -/
inductive Reachable (s : Store) (v : Value) : Cell → Prop where
  /-- the value refers to it -/
  | here {c : Cell} (h : v.Mentions c) : Reachable s v c
  /-- something in a place that can be reached refers to it -/
  | further {c d : Cell} {w : Value} (h : Reachable s v c) (hw : s.Contains w c)
    (hd : w.Mentions d) : Reachable s v d

/-- Whether there is only data at a place, and only under names that may be defined. -/
def HoldsData (s : Store) : Cell → Prop
  | .array r => ∀ v ∈ s.array r, v.isData = true
  | .dict r => ∀ n v, (s.dict r).get? n = some v → n.isDefinable = true ∧ v.isData = true

/-- Whether there is the same at a place of another store. -/
def AgreesAt (s s' : Store) : Cell → Prop
  | .array r => s'.array r = s.array r
  | .dict r => s'.dict r = s.dict r

/-- Whether only data can be reached from a value. -/
def IsClean (s : Store) (v : Value) : Prop :=
  ∀ c, s.Reachable v c → s.HoldsData c

end Store

/-! ## Sound sets of places -/

/-- A value refers to places of a set only. -/
def Value.Within (G : Set Cell) (v : Value) : Prop :=
  ∀ c, v.Mentions c → c ∈ G

/-- The places of a set hold data that refers to places of the set only. -/
structure Store.Sound (s : Store) (G : Set Cell) : Prop where
  /-- so it is with arrays -/
  array : ∀ r, .array r ∈ G → ∀ v ∈ s.array r, v.isData = true ∧ v.Within G
  /-- and with dictionaries -/
  dict : ∀ r, .dict r ∈ G → ∀ n v, (s.dict r).get? n = some v →
    n.isDefinable = true ∧ v.isData = true ∧ v.Within G

variable {G H : Set Cell} {s : Store} {v : Value}

namespace Value.Within

theorem mono (h : v.Within G) (hsub : G ⊆ H) : v.Within H :=
  fun c hc => hsub (h c hc)

/-- A number refers to nothing. -/
theorem number (n : Number) : (Value.number n).Within G := by
  rintro c ⟨⟩

/-- A truth value refers to nothing. -/
theorem bool (b : Bool) : (Value.bool b).Within G := by
  rintro c ⟨⟩

/-- An array is within a set that its place belongs to. -/
theorem array {r : ArrayRef} (h : .array r ∈ G) : (Value.array r).Within G := by
  rintro c ⟨⟩
  exact h

/-- A dictionary is within a set that its place belongs to. -/
theorem dict {r : DictRef} (h : .dict r ∈ G) : (Value.dict r).Within G := by
  rintro c ⟨⟩
  exact h

/-- A procedure refers to what its body refers to. -/
theorem proc_iff {body : List Value} : (Value.proc body).Within G ↔ ∀ v ∈ body, v.Within G := by
  constructor
  · exact fun h v hv c hc => h c (.inside hv hc)
  · rintro h c ⟨⟩
    next v hv hc => exact h v hv c hc

end Value.Within

namespace Store

/-- Only data can be reached from what refers to a sound set. -/
theorem Sound.isClean (h : s.Sound G) (hv : v.Within G) : s.IsClean v := by
  have hmem (c : Cell) (hc : s.Reachable v c) : c ∈ G := by
    induction hc with
    | here hc => exact hv _ hc
    | @further c d w _ hw hd ih =>
      cases c with
      | array r => exact (h.array r ih w hw).2 d hd
      | dict r =>
        obtain ⟨n, hn⟩ := hw
        exact (h.dict r ih n w hn).2.2 d hd
  intro c hc
  cases c with
  | array r => exact fun w hw => (h.array r (hmem _ hc) w hw).1
  | dict r =>
    intro n w hn
    obtain ⟨hname, hdata, -⟩ := h.dict r (hmem _ hc) n w hn
    exact ⟨hname, hdata⟩

/-- The places that can be reached from some values. -/
def reach (s : Store) (roots : Set Value) : Set Cell :=
  {c | ∃ v ∈ roots, s.Reachable v c}

/-- What the given values refer to is reached. -/
theorem within_reach {roots : Set Value} (hv : v ∈ roots) : v.Within (s.reach roots) :=
  fun _ hc => ⟨v, hv, .here hc⟩

/-- If only data can be reached from some values, then what can be reached is a sound set. -/
theorem sound_reach {roots : Set Value} (h : ∀ v ∈ roots, s.IsClean v) :
    s.Sound (s.reach roots) where
  array := by
    rintro r ⟨root, hroot, hr⟩ v hv
    exact ⟨h root hroot _ hr v hv, fun c hc => ⟨root, hroot, hr.further hv hc⟩⟩
  dict := by
    rintro r ⟨root, hroot, hr⟩ n v hn
    obtain ⟨hname, hdata⟩ := h root hroot _ hr n v hn
    exact ⟨hname, hdata, fun c hc => ⟨root, hroot, hr.further ⟨n, hn⟩ hc⟩⟩

namespace Sound

/-- Two sound sets are sound together. -/
theorem union (hG : s.Sound G) (hH : s.Sound H) : s.Sound (G ∪ H) where
  array r hr v hv := by
    rcases hr with hr | hr
    · exact (hG.array r hr v hv).imp id fun h => h.mono Set.subset_union_left
    · exact (hH.array r hr v hv).imp id fun h => h.mono Set.subset_union_right
  dict r hr n v hn := by
    rcases hr with hr | hr
    · exact (hG.dict r hr n v hn).imp id (.imp id fun h => h.mono Set.subset_union_left)
    · exact (hH.dict r hr n v hn).imp id (.imp id fun h => h.mono Set.subset_union_right)

/-- Where nothing is changed at the places of a set, it stays sound. -/
theorem congr {s' : Store} (h : s.Sound G) (hagrees : ∀ c ∈ G, s.AgreesAt s' c) : s'.Sound G where
  array r hr v hv := h.array r hr v ((hagrees _ hr : s'.array r = s.array r) ▸ hv)
  dict r hr n v hn := h.dict r hr n v ((hagrees _ hr : s'.dict r = s.dict r) ▸ hn)

/-! ## What the store does -/

/-- Data that refers to the set can be put in an array. -/
theorem put (h : s.Sound G) (r : ArrayRef) (i : Nat) (hdata : v.isData = true)
    (hv : v.Within G) : (s.put r i v).Sound G where
  array t ht w hw := by
    rw [array_put] at hw
    split at hw
    · rcases Array.mem_or_eq_of_mem_setIfInBounds hw with hw | rfl
      · exact h.array t ht w hw
      · exact ⟨hdata, hv⟩
    · exact h.array t ht w hw
  dict := h.dict

/-- A name that may be defined can be bound to data that refers to the set. -/
theorem bind (h : s.Sound G) (r : DictRef) {n : Name} (hname : n.isDefinable = true)
    (hdata : v.isData = true) (hv : v.Within G) : (s.bind r n v).Sound G where
  array := h.array
  dict t ht m w hw := by
    rw [dict_bind] at hw
    split at hw
    · rw [Dictionary.get?_insert] at hw
      split at hw
      · next heq =>
        cases hw
        exact ⟨heq ▸ hname, hdata, hv⟩
      · exact h.dict t ht m w hw
    · exact h.dict t ht m w hw

/-- A new array of data that refers to the set belongs to the set from then on. -/
theorem allocArray (h : s.Sound G) {items : Array Value}
    (hitems : ∀ v ∈ items, v.isData = true ∧ v.Within G) :
    (s.allocArray items).2.Sound (insert (.array (s.allocArray items).1) G) where
  array t ht w hw := by
    rw [array_allocArray] at hw
    split at hw
    · exact (hitems w hw).imp id fun h => h.mono (Set.subset_insert _ _)
    · next hne =>
      have hmem : Cell.array t ∈ G := ht.resolve_left fun heq => hne (Cell.array.inj heq)
      exact (h.array t hmem w hw).imp id fun h => h.mono (Set.subset_insert _ _)
  dict t ht m w hw := by
    have hmem : Cell.dict t ∈ G := ht.resolve_left fun heq => by cases heq
    exact (h.dict t hmem m w hw).imp id (.imp id fun h => h.mono (Set.subset_insert _ _))

/-- So does a new dictionary. -/
theorem allocDict (h : s.Sound G) {d : Dictionary}
    (hd : ∀ n v, d.get? n = some v → n.isDefinable = true ∧ v.isData = true ∧ v.Within G) :
    (s.allocDict d).2.Sound (insert (.dict (s.allocDict d).1) G) where
  array t ht w hw := by
    have hmem : Cell.array t ∈ G := ht.resolve_left fun heq => by cases heq
    exact (h.array t hmem w hw).imp id fun h => h.mono (Set.subset_insert _ _)
  dict t ht m w hw := by
    rw [dict_allocDict] at hw
    split at hw
    · exact (hd m w hw).imp id (.imp id fun h => h.mono (Set.subset_insert _ _))
    · next hne =>
      have hmem : Cell.dict t ∈ G := ht.resolve_left fun heq => hne (Cell.dict.inj heq)
      exact (h.dict t hmem m w hw).imp id (.imp id fun h => h.mono (Set.subset_insert _ _))

end Sound

end Store

/-! ## Loading a program -/

mutual

/-- Array literals are numbers all the way in, so they are data. -/
theorem NumberTree.sound_load {s : Store} {G : Set Cell} (h : s.Sound G)
    (tree : NumberTree) :
    ∃ H, G ⊆ H ∧ (tree.load s).2.Sound H ∧
      (tree.load s).1.isData = true ∧ (tree.load s).1.Within H := by
  cases tree with
  | leaf n => exact ⟨G, subset_rfl, h, rfl, .number n⟩
  | node items =>
    obtain ⟨H, hsub, hsound, hvalues⟩ := NumberTree.sound_loadAll h items
    refine ⟨_, hsub.trans (Set.subset_insert _ _), hsound.allocArray fun v hv => ?_, rfl,
      .array (Set.mem_insert _ _)⟩
    exact hvalues v (Array.mem_toList_iff.mpr hv)

/-- So are several of them. -/
theorem NumberTree.sound_loadAll {s : Store} {G : Set Cell} (h : s.Sound G)
    (trees : List NumberTree) :
    ∃ H, G ⊆ H ∧ (NumberTree.loadAll s trees).2.Sound H ∧
      ∀ v ∈ (NumberTree.loadAll s trees).1, v.isData = true ∧ v.Within H := by
  cases trees with
  | nil => exact ⟨G, subset_rfl, h, List.forall_mem_nil _⟩
  | cons tree rest =>
    obtain ⟨H₁, hsub₁, hsound₁, hdata, hv⟩ := NumberTree.sound_load h tree
    obtain ⟨H₂, hsub₂, hsound₂, hvalues⟩ := NumberTree.sound_loadAll hsound₁ rest
    exact ⟨H₂, hsub₁.trans hsub₂, hsound₂,
      List.forall_mem_cons.mpr ⟨⟨hdata, hv.mono hsub₂⟩, hvalues⟩⟩

end

mutual

/-- A term refers only to the arrays that are made for it. -/
theorem Term.sound_load {s : Store} {G : Set Cell} (h : s.Sound G)
    (term : Term) :
    ∃ H, G ⊆ H ∧ (term.load s).2.Sound H ∧ (term.load s).1.Within H := by
  cases term with
  | array items =>
    obtain ⟨H, hsub, hsound, -, hv⟩ := NumberTree.sound_load h (.node items)
    exact ⟨H, hsub, hsound, hv⟩
  | proc body =>
    obtain ⟨H, hsub, hsound, hvalues⟩ := Term.sound_loadAll h body
    exact ⟨H, hsub, hsound, Value.Within.proc_iff.mpr hvalues⟩
  | _ => exact ⟨G, subset_rfl, h, by rintro c ⟨⟩⟩

/-- So do several terms. -/
theorem Term.sound_loadAll {s : Store} {G : Set Cell} (h : s.Sound G)
    (terms : List Term) :
    ∃ H, G ⊆ H ∧ (Term.loadAll s terms).2.Sound H ∧
      ∀ v ∈ (Term.loadAll s terms).1, v.Within H := by
  cases terms with
  | nil => exact ⟨G, subset_rfl, h, List.forall_mem_nil _⟩
  | cons term rest =>
    obtain ⟨H₁, hsub₁, hsound₁, hv⟩ := Term.sound_load h term
    obtain ⟨H₂, hsub₂, hsound₂, hvalues⟩ := Term.sound_loadAll hsound₁ rest
    exact ⟨H₂, hsub₁.trans hsub₂, hsound₂,
      List.forall_mem_cons.mpr ⟨hv.mono hsub₂, hvalues⟩⟩

end

end StackScript
