import StackScript.Proofs.Session.Writing
import StackScript.Proofs.Value.Cycle

/-!
# Printing

What is printed for a value, from beginning to end (`Value.printing_cuts_cycles`): printing ends,
with the text that is written when each array is cut short inside itself and nowhere else; the mark
for that is found exactly where there are cycles, but for an array that only looks as if it were
cut; and an array of finite numbers and of such arrays, in which there are no cycles, is printed as
an array literal that reads back as an equal array. Inspecting ends as well.

An array in the store is a graph in which elements can be shared, and a literal is a tree. So they
are compared through the tree that an array represents (`Store.Represents`): it is the one that is
written (`Form.Written.exists_tree`), the one that is loaded when the literal is read back
(`NumberTree.represents_load`), and nothing tells two values apart that represent the same tree
(`Store.Represents.not_distinguishes`).
-/

namespace StackScript

/-! ## Trees in the store -/

namespace Store

/-- A value is the number, or the array of such values, that a tree is. -/
inductive Represents (s : Store) : Value → NumberTree → Prop where
  /-- a leaf is a number -/
  | leaf (n : Number) : Represents s (.number n) (.leaf n)
  /-- an inner node is an array with an element for each tree in it -/
  | node {r : ArrayRef} {items : List NumberTree} (hhas : s.Has (.array r))
    (hlength : (s.array r).size = items.length)
    (hitems : ∀ {i : Nat} {v : Value} {tree : NumberTree}, (s.array r)[i]? = some v →
      items[i]? = some tree → Represents s v tree) : Represents s (.array r) (.node items)

namespace Represents

variable {s s' : Store} {a b v : Value} {tree : NumberTree}

/-- Where nothing is changed that was handed out, the same trees are represented. -/
theorem of_changesOnly (h : s.Represents v tree) (hs : s.ChangesOnly s' ∅) :
    s'.Represents v tree := by
  induction h with
  | leaf n => exact .leaf n
  | @node r items hhas hlength _ ih =>
    have hsame : s'.array r = s.array r := hs.agrees hhas (Set.notMem_empty _)
    refine .node (hs.has hhas) ?_ fun hv htree => ?_
    · rw [hsame, hlength]
    · rw [hsame] at hv
      exact ih hv htree

/-- Two values that represent the same tree, without NaN in it, are not told apart. -/
theorem not_distinguishes {path : List Access} (ha : s.Represents a tree)
    (hb : s.Represents b tree) (hnan : ∀ n ∈ tree.numbers, n.isNaN = false) :
    ¬ s.Distinguishes path a b := by
  intro h
  induction h generalizing tree with
  | here hdiffers =>
    cases ha with
    | leaf n =>
      cases hb
      have hself := Number.beq_self (hnan n (List.mem_singleton_self n))
      exact ne_true_of_eq_false hdiffers hself
    | node _ hlength =>
      cases hb with
      | node _ hlength' => exact hdiffers (hlength.trans hlength'.symm)
  | @there step path a b a' b' _ hfollow hfollow' _ ih =>
    cases ha with
    | leaf n => cases step <;> cases hfollow
    | @node r items _ hlength hitems =>
      cases hb with
      | node _ _ hitems' =>
        cases step with
        | index i =>
          obtain ⟨hlt, -⟩ := Array.getElem?_eq_some_iff.mp hfollow
          have htree : items[i]? = some items[i] := List.getElem?_eq_getElem (hlength ▸ hlt)
          refine ih (hitems hfollow htree) (hitems' hfollow' htree) fun n hn => ?_
          exact hnan n (NumberTree.mem_numbersAll.mpr ⟨_, List.mem_of_getElem? htree, hn⟩)
        | _ => cases hfollow

/-- Two values that represent the same tree, without NaN in it, are equal. -/
theorem equal (ha : s.Represents a tree) (hb : s.Represents b tree)
    (hnan : ∀ n ∈ tree.numbers, n.isNaN = false) : a.equal s b = true := by
  refine eq_true_of_ne_false fun hne => ?_
  obtain ⟨path, hpath⟩ := Value.equal_eq_false_iff.mp hne
  exact ha.not_distinguishes hb hnan hpath

end Represents

end Store

/-! ## Loading a tree -/

namespace NumberTree

mutual

/-- What is loaded for a tree represents it. -/
theorem represents_load (s : Store) (tree : NumberTree) :
    (tree.load s).2.Represents (tree.load s).1 tree := by
  cases tree with
  | leaf n => exact .leaf n
  | node items =>
    obtain ⟨hlength, hitems⟩ := represents_loadAll s items
    have harray : ((node items).load s).2.array ⟨(loadAll s items).2.arrays.size⟩ =
        (loadAll s items).1.toArray := by
      rw [load, Store.array_allocArray]
      exact if_pos rfl
    refine .node (r := ⟨(loadAll s items).2.arrays.size⟩) ?_ ?_ fun hv htree => ?_
    · exact Nat.lt_of_lt_of_eq (Nat.lt_succ_self _) (Array.size_push _).symm
    · rw [harray, List.size_toArray, hlength]
    · rw [harray, List.getElem?_toArray] at hv
      exact (hitems hv htree).of_changesOnly (.allocArray _ _ ∅)

/-- What is loaded for several trees represents them, one by one. -/
theorem represents_loadAll (s : Store) (trees : List NumberTree) :
    (loadAll s trees).1.length = trees.length ∧
      ∀ {i : Nat} {v : Value} {tree : NumberTree}, (loadAll s trees).1[i]? = some v →
        trees[i]? = some tree → (loadAll s trees).2.Represents v tree := by
  cases trees with
  | nil => exact ⟨rfl, fun hv => by cases hv⟩
  | cons tree rest =>
    obtain ⟨hlength, hitems⟩ := represents_loadAll (tree.load s).2 rest
    refine ⟨congrArg Nat.succ hlength, fun {i v t} hv ht => ?_⟩
    cases i with
    | zero =>
      obtain rfl := Option.some.inj hv
      obtain rfl := Option.some.inj ht
      exact (represents_load s tree).of_changesOnly (changesOnly_loadAll _ rest ∅)
    | succ i => exact hitems hv ht

end

end NumberTree

/-! ## Reading back -/

/-- Several trees are written as their texts with spaces in between. -/
theorem NumberTree.spaced_eq_intercalate (items : List NumberTree) :
    spaced items = [' '].intercalate (items.map chars) := by
  match items with
  | [] => rfl
  | [tree] =>
    rw [List.map_singleton, List.intercalate_singleton]
    rfl
  | tree :: next :: rest =>
    rw [List.map_cons, List.map_cons, List.intercalate_cons_cons, List.append_assoc]
    exact congrArg (tree.chars ++ ' ' :: ·) (spaced_eq_intercalate (next :: rest))

/-- A value that can stand in an array literal: a finite number, or an array of the store. -/
def Store.IsNumeric (s : Store) : Value → Prop
  | .number n => n.IsFinite
  | .array r => s.Has (.array r)
  | _ => False

/-- Where only finite numbers and arrays are reached, and no array from itself, what is written for
a value is the text of the tree that it represents. -/
theorem Form.Written.exists_tree {s : Store} {path : List ArrayRef} {v : Value}
    {text : List Char} (h : display.Written s path v text)
    (hopen : s.AllReach path v)
    (hnumeric : ∀ w, s.Reaches v w → s.IsNumeric w)
    (hacyclic : ∀ r, s.Reaches v (.array r) → ¬ s.IsCyclic r) :
    ∃ tree, s.Represents v tree ∧ text = tree.chars ∧ ∀ n ∈ tree.numbers, n.IsFinite := by
  induction h with
  | @cut path v r hr hmem =>
    obtain ⟨rfl, hcyclic⟩ := hopen.isCyclic hr hmem
    exact absurd hcyclic (hacyclic r .refl)
  | @full path v texts hclosed hparts ih =>
    have hself := hnumeric v .refl
    cases v with
    | number n => exact ⟨.leaf n, .leaf n, rfl, List.forall_mem_singleton.mpr hself⟩
    | array r =>
      have hinside : ∀ w ∈ display.parts s (.array r), ∃ tree, s.Represents w tree ∧
          texts w = tree.chars ∧ ∀ n ∈ tree.numbers, n.IsFinite := by
        intro w hw
        exact ih w hw (hopen.step hw) (fun w' hw' => hnumeric w' (.head hw hw'))
          fun t ht => hacyclic t (.head hw ht)
      have : Nonempty NumberTree := ⟨.node []⟩
      choose! trees hrepresents htexts hfinite using hinside
      refine ⟨.node ((s.array r).toList.map trees), .node hself ?_ fun hv htree => ?_, ?_, ?_⟩
      · rw [List.length_map, Array.length_toList]
      · rw [List.getElem?_map, Array.getElem?_toList, hv] at htree
        obtain rfl := Option.some.inj htree
        exact hrepresents _ (Array.mem_toList_iff.mpr (Array.mem_of_getElem? hv))
      · have hmap : (display.parts s (.array r)).map texts =
            ((s.array r).toList.map trees).map NumberTree.chars := by
          rw [List.map_map]
          exact List.map_congr_left htexts
        rw [NumberTree.chars, NumberTree.spaced_eq_intercalate, ← hmap]
        rfl
      · intro n hn
        obtain ⟨tree, htree, hn⟩ := NumberTree.mem_numbersAll.mp hn
        obtain ⟨w, hw, rfl⟩ := List.mem_map.mp htree
        exact hfinite w hw n hn
    | _ => cases hself

/-- **A printed array reads back**: if only finite numbers and arrays can be reached from an array,
and none of these arrays from itself, then it is printed as an array literal, wherever this stands,
and what is loaded for the literal is equal to it. -/
theorem Value.reads_back {s : Store} {r : ArrayRef}
    (hnumeric : ∀ w, s.Reaches (.array r) w → s.IsNumeric w)
    (hacyclic : ∀ t, s.Reaches (.array r) (.array t) → ¬ s.IsCyclic t) (offset : Nat) :
    ∃ items, NumberTree.ofLiteral ((Value.array r).text s) offset = .ok items ∧
      (Value.array r).equal ((NumberTree.node items).load s).2
        ((NumberTree.node items).load s).1 = true := by
  have hwritten : Form.display.Written s [] (.array r) ((Value.array r).chars s) :=
    written_display_iff.mpr rfl
  obtain ⟨tree, hrepresents, hchars, hfinite⟩ :=
    hwritten.exists_tree (.nil s _) hnumeric hacyclic
  cases tree with
  | leaf n => cases hrepresents
  | node items =>
    refine ⟨items, ?_, ?_⟩
    · rw [text, hchars]
      exact NumberTree.ofLiteral_spaced hfinite offset
    · have hkept := hrepresents.of_changesOnly (NumberTree.changesOnly_load s (.node items) ∅)
      exact hkept.equal (NumberTree.represents_load s (.node items)) fun n hn =>
        (hfinite n hn).notNaN

/-! ## Printing -/

namespace Value

/-- **Printing cuts cycles**, and inspecting does, in every store and for every value. Both end,
with the text that is written when a cell is cut short where it is open already on the way down to
it, and written in full everywhere else. If no name that is reached has a bracket in it, `[...]` is
printed exactly if an array is reached that can be reached from itself, or one that only looks as if
it were cut. An array that leads to finite numbers and arrays only, none of them within itself, is
printed as a literal that reads back as an equal array. -/
theorem printing_cuts_cycles (s : Store) (v : Value) :
    (∀ text, Form.display.Written s [] v text ↔ text = v.chars s) ∧
      ((∀ w n, s.Reaches v w → w.shownName? = some n → Text.IsBare n.chars) →
        (Store.ellipsis <:+: v.chars s ↔
          ∃ r, s.Reaches v (.array r) ∧ (s.IsCyclic r ∨ s.LooksCut r))) ∧
      (∀ r, v = .array r → (∀ w, s.Reaches v w → s.IsNumeric w) →
        (∀ t, s.Reaches v (.array t) → ¬ s.IsCyclic t) →
        ∀ offset, ∃ items, NumberTree.ofLiteral (v.text s) offset = .ok items ∧
          v.equal ((NumberTree.node items).load s).2 ((NumberTree.node items).load s).1 = true) ∧
      ∀ text, Form.inspection.Written s [] v text ↔ text = (v.inspect s).toList := by
  refine ⟨fun _ => written_display_iff, ellipsis_infix_iff, ?_, fun _ => written_inspection_iff⟩
  rintro r rfl hnumeric hacyclic offset
  exact reads_back hnumeric hacyclic offset

/-- A store with an array that holds a one and itself, an array that holds another one twice, and a
dictionary that is bound in itself. -/
def rings : Store where
  arrays := #[#[.number (.int 1), .array ⟨0⟩], #[.number (.int 7)], #[.array ⟨1⟩, .array ⟨1⟩]]
  dicts := #[.ofList [(⟨"/d"⟩, .dict ⟨0⟩)]]

theorem holds_rings {r : ArrayRef} {w : Value} (h : rings.Holds (.array r) w) :
    r.index = 0 ∧ (w = .number (.int 1) ∨ w = .array ⟨0⟩) ∨
      r.index = 1 ∧ w = .number (.int 7) ∨ r.index = 2 ∧ w = .array ⟨1⟩ := by
  obtain ⟨i⟩ := r
  match i, h with
  | 0, h => simpa [Store.Holds, Form.display, Store.array, rings] using h
  | 1, h => simpa [Store.Holds, Form.display, Store.array, rings] using h
  | 2, h => simpa [Store.Holds, Form.display, Store.array, rings] using h
  | i + 3, h => simp [Store.Holds, Form.display, Store.array, rings] at h

/-- Of these, only the first array is cut; the last one is printed in full, and reads back. The
dictionary is cut when it is inspected. -/
theorem printing_cuts_cycles_of_rings :
    Store.ellipsis <:+: (Value.array ⟨0⟩).chars rings ∧
      ¬ Store.ellipsis <:+: (Value.array ⟨2⟩).chars rings ∧
      Form.display.Written rings [] (.array ⟨2⟩) "[[7] [7]]".toList ∧
      (∃ items, NumberTree.ofLiteral ((Value.array ⟨2⟩).text rings) 0 = .ok items ∧
        (Value.array ⟨2⟩).equal ((NumberTree.node items).load rings).2
          ((NumberTree.node items).load rings).1 = true) ∧
      Form.inspection.Written rings [] (.dict ⟨0⟩)
        "Dict(Shared(\x7bName(\"/d\"): Dict(Shared(..))\x7d))".toList := by
  -- what is reached from the first array has no names, and neither has what is from the last one
  have hring (w : Value) (h : rings.Reaches (.array ⟨0⟩) w) :
      w = .array ⟨0⟩ ∨ w = .number (.int 1) := by
    induction h with
    | refl => exact .inl rfl
    | tail _ hb ih =>
      obtain rfl | rfl := ih
      · obtain ⟨-, hb⟩ | ⟨hr, -⟩ | ⟨hr, -⟩ := holds_rings hb
        · exact hb.symm
        · cases hr
        · cases hr
      · cases hb
  have hinner (w : Value) (h : Relation.TransGen rings.Holds (.array ⟨1⟩) w) :
      w = .number (.int 7) := by
    obtain ⟨b, hb, hfurther⟩ := Relation.TransGen.head'_iff.mp h
    obtain ⟨hr, -⟩ | ⟨-, rfl⟩ | ⟨hr, -⟩ := holds_rings hb
    · cases hr
    · obtain rfl | ⟨c, hc, -⟩ := hfurther.cases_head
      · rfl
      · cases hc
    · cases hr
  have houter (w : Value) (h : Relation.TransGen rings.Holds (.array ⟨2⟩) w) :
      w = .array ⟨1⟩ ∨ w = .number (.int 7) := by
    obtain ⟨b, hb, hfurther⟩ := Relation.TransGen.head'_iff.mp h
    obtain ⟨hr, -⟩ | ⟨hr, -⟩ | ⟨-, rfl⟩ := holds_rings hb
    · cases hr
    · cases hr
    · exact (Relation.reflTransGen_iff_eq_or_transGen.mp hfurther).imp id (hinner w)
  have hpair (w : Value) (h : rings.Reaches (.array ⟨2⟩) w) :
      w = .array ⟨2⟩ ∨ w = .array ⟨1⟩ ∨ w = .number (.int 7) :=
    (Relation.reflTransGen_iff_eq_or_transGen.mp h).imp id (houter w)
  have hacyclic (t : ArrayRef) (h : rings.Reaches (.array ⟨2⟩) (.array t)) :
      ¬ rings.IsCyclic t := by
    intro hcyclic
    obtain ht | ht | ht := hpair _ h <;> cases ht
    · obtain h | h := houter _ hcyclic <;> cases h
    · cases hinner _ hcyclic
  obtain ⟨-, hcut, -, -⟩ := printing_cuts_cycles rings (.array ⟨0⟩)
  obtain ⟨hwritten, huncut, hback, -⟩ := printing_cuts_cycles rings (.array ⟨2⟩)
  obtain ⟨-, -, -, hinspected⟩ := printing_cuts_cycles rings (.dict ⟨0⟩)
  refine ⟨?_, ?_, ?_, ?_, ?_⟩
  · refine (hcut fun w n hw hname => ?_).mpr ⟨⟨0⟩, .refl, .inl (.single ?_)⟩
    · obtain rfl | rfl := hring w hw <;> cases hname
    · exact List.mem_cons_of_mem _ (List.mem_singleton_self _)
  · refine fun hfound => ?_
    obtain ⟨r, hr, hcyclic | ⟨w, n, hitems, hname, -⟩⟩ := (huncut fun w n hw hname => by
      obtain rfl | rfl | rfl := hpair w hw <;> cases hname).mp hfound
    · exact hacyclic r hr hcyclic
    · obtain h | h | h := hpair _ hr <;> cases h <;> cases hitems
      cases hname
  · exact (hwritten _).mpr (by decide)
  · refine hback ⟨2⟩ rfl (fun w hw => ?_) hacyclic 0
    obtain rfl | rfl | rfl := hpair w hw
    · exact (by decide : 2 < 3)
    · exact (by decide : 1 < 3)
    · exact ⟨rfl, rfl⟩
  · exact (hinspected _).mpr (by decide +kernel)

/-- A store with an array of a single name, which is written as three points. -/
def points : Store where
  arrays := #[#[.name ⟨"..."⟩]]
  dicts := #[]

/-- There the mark is printed, though no name has a bracket in it and nothing is cut. -/
theorem ellipsis_infix_of_points :
    (∀ w n, points.Reaches (.array ⟨0⟩) w → w.shownName? = some n → Text.IsBare n.chars) ∧
      Store.ellipsis <:+: (Value.array ⟨0⟩).chars points ∧
      ¬ ∃ r, points.Reaches (.array ⟨0⟩) (.array r) ∧ points.IsCyclic r := by
  have hinside (w : Value) (h : Relation.TransGen points.Holds (.array ⟨0⟩) w) :
      w = .name ⟨"..."⟩ := by
    obtain ⟨b, hb, hfurther⟩ := Relation.TransGen.head'_iff.mp h
    obtain rfl : b = .name ⟨"..."⟩ := List.mem_singleton.mp hb
    obtain rfl | ⟨c, hc, -⟩ := hfurther.cases_head
    · rfl
    · cases hc
  refine ⟨fun w n hw hname => ?_, ?_, ?_⟩
  · obtain rfl | hw := Relation.reflTransGen_iff_eq_or_transGen.mp hw
    · cases hname
    · obtain rfl := hinside w hw
      cases hname
      exact ⟨by decide, by decide⟩
  · decide
  · rintro ⟨r, hr, hcyclic⟩
    obtain hr | hr := Relation.reflTransGen_iff_eq_or_transGen.mp hr
    · cases hr
      cases hinside _ hcyclic
    · cases hinside _ hr

end Value

end StackScript
