import StackScript.Proofs.Value.Equality
import StackScript.Value.Text

/-!
# Written forms

A *form* says what the text of a value is, given the texts of the values within it, and what stands
for a cell inside itself. From this alone follows what is written for a value: `Form.Written` goes
down from a value with the cells that are open around it, and cuts a cell short exactly where it is
open already. There is no bound on how deep this goes, and nothing to close on the way back.

`Value.writeWith` and `Value.inspectWith` keep a single account of the open cells and a budget. They
close what they opened, and the budget is never spent, so both come to an end with the one text that
is written (`Value.written_display_iff`, `Value.written_inspection_iff`). That is shown once for
everything that goes from cell to cell in this way (`Form.IsWrittenBy`).
-/

namespace StackScript

/-! ## Forms -/

/-- A way to write values. -/
structure Form (κ : Type) where
  /-- the cell that a value refers to, if it refers to one -/
  cell? : Value → Option κ
  /-- the values within a value, from left to right -/
  parts : Store → Value → List Value
  /-- the text of a value, around the texts of the values within it -/
  frame : Store → Value → List (List Char) → List Char
  /-- what stands for a value inside itself -/
  short : Value → List Char

namespace Form

variable {κ : Type} {F : Form κ} {s : Store} {path : List κ} {v : Value} {text : List Char}

/-- What is written for a value while certain cells are open around it, the innermost one first. -/
inductive Written (F : Form κ) (s : Store) : List κ → Value → List Char → Prop where
  /-- a cell that is open already is cut short -/
  | cut {path : List κ} {v : Value} {c : κ} (hc : F.cell? v = some c) (hopen : c ∈ path) :
    Written F s path v (F.short v)
  /-- anything else is written in full; if it is a cell, this cell is open around what is in it -/
  | full {path : List κ} {v : Value} {texts : Value → List Char}
    (hclosed : ∀ c, F.cell? v = some c → c ∉ path)
    (hparts : ∀ w ∈ F.parts s v, Written F s ((F.cell? v).toList ++ path) w (texts w)) :
    Written F s path v (F.frame s v ((F.parts s v).map texts))

/-- A value that is no cell is written in full. -/
theorem Written.eq_frame (hc : F.cell? v = none) (h : F.Written s path v text) :
    ∃ texts, text = F.frame s v ((F.parts s v).map texts) ∧
      ∀ w ∈ F.parts s v, F.Written s path w (texts w) := by
  cases h with
  | cut hsome =>
    rw [hc] at hsome
    cases hsome
  | full hclosed hparts =>
    rw [hc] at hparts
    exact ⟨_, rfl, hparts⟩

/-- One text is written for a value. -/
theorem Written.unique {text' : List Char} (h : F.Written s path v text)
    (h' : F.Written s path v text') : text = text' := by
  induction h generalizing text' with
  | cut hc hopen =>
    cases h' with
    | cut => rfl
    | full hclosed => exact absurd hopen (hclosed _ hc)
  | full hclosed _ ih =>
    cases h' with
    | cut hc hopen => exact absurd hopen (hclosed _ hc)
    | full _ hparts =>
      exact congrArg _ (List.map_congr_left fun w hw => ih w hw (hparts w hw))

end Form

/-! ## Writers that close what they open -/

namespace Writer

variable {κ α β : Type} {path : List κ} {a : α} {b : β}

/-- A writer comes to a result and leaves the same cells open as before. -/
def Writes (w : Writer κ α) (path : List κ) (a : α) : Prop :=
  w.run path = (a, path)

/-- A text that is just there opens nothing. -/
theorem writes_pure (a : α) (path : List κ) : Writes (pure a : Writer κ α) path a :=
  rfl

/-- One writer after the other closes what it opens if both do. -/
theorem Writes.bind {w : Writer κ α} {next : α → Writer κ β} (h : Writes w path a)
    (hnext : Writes (next a) path b) : Writes (w >>= next) path b := by
  rw [Writes, StateT.run_bind, show w.run path = (a, path) from h]
  exact hnext

/-- What is put around a result opens nothing. -/
theorem Writes.map {w : Writer κ α} (f : α → β) (h : Writes w path a) :
    Writes (f <$> w) path (f a) := by
  rw [Writes, StateT.run_map, show w.run path = (a, path) from h]
  rfl

section Once

variable [DecidableEq κ] {cell : κ} {short text : List Char} {inside : Writer κ (List Char)}

/-- A cell that is open is cut short. -/
theorem writes_once_of_mem (h : cell ∈ path) : Writes (once cell short inside) path short := by
  rw [Writes, once, StateT.run_bind]
  exact congrArg (fun w : Writer κ (List Char) => w.run path) (if_pos h)

/-- Any other cell is written with the cell open around what is in it, and closed in the end. -/
theorem writes_once (h : cell ∉ path) (hinside : Writes inside (cell :: path) text) :
    Writes (once cell short inside) path text := by
  have hopened : Writes (do
      modify (cell :: ·)
      let text ← inside
      modify (·.erase cell)
      return text : Writer κ (List Char)) path text := by
    rw [Writes, StateT.run_bind]
    change StateT.run (do
      let text ← inside
      modify (·.erase cell)
      return text : Writer κ (List Char)) (cell :: path) = _
    rw [StateT.run_bind, show inside.run (cell :: path) = (text, cell :: path) from hinside]
    exact congrArg (Prod.mk text) (List.erase_cons_head cell path)
  rw [Writes, once, StateT.run_bind]
  exact (congrArg (fun w : Writer κ (List Char) => w.run path) (if_neg h)).trans hopened

end Once

end Writer

/-! ## Writing a form -/

namespace Form

variable {κ : Type} {F : Form κ} {s : Store} {all : List κ}
  {write : Nat → Value → Writer κ (List Char)}

/-- Writers, one for each budget, that go through values as a form asks for. The list `all` is one
of all cells that have anything in them. -/
structure IsWrittenBy (F : Form κ) (s : Store) (all : List κ)
    (write : Nat → Value → Writer κ (List Char)) : Prop where
  /-- a cell that has something in it is one of the list -/
  mem : ∀ {v w : Value} {c : κ}, F.cell? v = some c → w ∈ F.parts s v → c ∈ all
  /-- what is in a value that is no cell is smaller -/
  lt : ∀ {v w : Value}, F.cell? v = none → w ∈ F.parts s v → sizeOf w < sizeOf v
  /-- a value that is no cell is written around what is in it -/
  direct : ∀ {budget : Nat} {path : List κ} {v : Value} {texts : Value → List Char},
    F.cell? v = none → (∀ w ∈ F.parts s v, (write budget w).Writes path (texts w)) →
      (write budget v).Writes path (F.frame s v ((F.parts s v).map texts))
  /-- a cell that is open is cut short -/
  cut : ∀ {budget : Nat} {path : List κ} {v : Value} {c : κ},
    F.cell? v = some c → c ∈ path → (write (budget + 1) v).Writes path (F.short v)
  /-- any other cell is opened, and what is in it is written with a smaller budget -/
  opened : ∀ {budget : Nat} {path : List κ} {v : Value} {c : κ} {texts : Value → List Char},
    F.cell? v = some c → c ∉ path →
      (∀ w ∈ F.parts s v, (write budget w).Writes (c :: path) (texts w)) →
        (write (budget + 1) v).Writes path (F.frame s v ((F.parts s v).map texts))

/-- **Values are written to the end**: as long as there is room, what a value comes to is what is
written for it, and the cells that were open are left open. -/
theorem IsWrittenBy.exists_writes (h : F.IsWrittenBy s all write) {budget : Nat} {path : List κ}
    (hroom : HasRoom all budget path) (v : Value) :
    ∃ text, (write budget v).Writes path text ∧ F.Written s path v text := by
  rcases hc : F.cell? v with _ | c
  · have hinside : ∀ w ∈ F.parts s v,
        ∃ text, (write budget w).Writes path text ∧ F.Written s path w text := fun w hw =>
      have := h.lt hc hw
      h.exists_writes hroom w
    choose! texts hwrites hwritten using hinside
    refine ⟨_, h.direct hc hwrites, .full (fun c hsome => ?_) ?_⟩
    · rw [hc] at hsome
      cases hsome
    · rwa [hc]
  · cases budget with
    | zero => exact absurd rfl hroom.ne_zero
    | succ budget =>
      by_cases hopen : c ∈ path
      · exact ⟨_, h.cut hc hopen, .cut hc hopen⟩
      · have hinside : ∀ w ∈ F.parts s v,
            ∃ text, (write budget w).Writes (c :: path) text ∧ F.Written s (c :: path) w text :=
          fun w hw => h.exists_writes (hroom.cons hopen (h.mem hc hw)) w
        choose! texts hwrites hwritten using hinside
        refine ⟨_, h.opened hc hopen hwrites, .full (fun d hd => ?_) ?_⟩
        · rw [hc] at hd
          exact Option.some.inj hd ▸ hopen
        · rwa [hc]
termination_by (budget, sizeOf v)

/-- What is written for a value is what a writer comes to that has nothing open. -/
theorem IsWrittenBy.written_iff (h : F.IsWrittenBy s all write) {budget : Nat}
    (hroom : HasRoom all budget []) {v : Value} {text : List Char} :
    F.Written s [] v text ↔ text = ((write budget v).run []).1 := by
  obtain ⟨text', hwrites, hwritten⟩ := h.exists_writes hroom v
  rw [show (write budget v).run [] = (text', []) from hwrites]
  constructor
  · exact fun htext => htext.unique hwritten
  · rintro rfl
    exact hwritten

end Form

/-- Several texts are written one after the other, with a separator between one and the next. -/
theorem Writer.writes_intercalate {κ α : Type} {path : List κ} {sep : List Char}
    (one : α → Writer κ (List Char)) (several : List α → Writer κ (List Char))
    (hnil : several [] = pure []) (hone : ∀ a, several [a] = one a)
    (hcons : ∀ a next rest, several (a :: next :: rest) = do
      let first ← one a
      let others ← several (next :: rest)
      return first ++ (sep ++ others))
    {texts : α → List Char} (as : List α) (h : ∀ a ∈ as, (one a).Writes path (texts a)) :
    (several as).Writes path (sep.intercalate (as.map texts)) := by
  match as, h with
  | [], _ =>
    rw [hnil]
    exact writes_pure _ _
  | [a], h =>
    rw [hone, List.map_singleton, List.intercalate_singleton]
    exact h a (List.mem_singleton_self a)
  | a :: next :: rest, h =>
    have hothers := writes_intercalate one several hnil hone hcons (next :: rest) fun b hb =>
      h b (List.mem_cons_of_mem a hb)
    rw [hcons, List.map_cons, List.map_cons, List.intercalate_cons_cons, List.append_assoc]
    exact (h a List.mem_cons_self).bind (hothers.bind (writes_pure _ _))

/-! ## The printed form -/

/-- How a value is printed: elements with single spaces between them, arrays within brackets and
procedures within braces. Only arrays are cells, and nothing in a dictionary is shown. -/
def Form.display : Form ArrayRef where
  cell?
    | .array r => some r
    | _ => none
  parts s
    | .array r => (s.array r).toList
    | .proc body => body
    | _ => []
  frame _ v texts :=
    match v with
    | .number n => n.chars
    | .bool b => (if b then "true" else "false").toList
    | .name n | .call n | .unknown n => n.chars
    | .array _ => '[' :: [' '].intercalate texts ++ [']']
    | .proc _ => '{' :: [' '].intercalate texts ++ ['}']
    | .dict _ => "-dict-".toList
    | .operator op => op.symbol.toList
  short _ := Store.ellipsis

namespace Value

variable {path : List ArrayRef}

theorem writes_writeSpacedWith {array : ArrayRef → Writer ArrayRef (List Char)}
    {texts : Value → List Char} {vs : List Value}
    (h : ∀ w ∈ vs, (w.writeWith array).Writes path (texts w)) :
    (writeSpacedWith array vs).Writes path ([' '].intercalate (vs.map texts)) :=
  Writer.writes_intercalate (·.writeWith array) (writeSpacedWith array) rfl (fun _ => rfl)
    (fun _ _ _ => rfl) vs h

end Value

/-- Values are printed in the printed form. -/
theorem Store.isWrittenBy_display (s : Store) :
    Form.display.IsWrittenBy s ((List.range s.arrays.size).map ArrayRef.mk) fun budget v =>
      v.writeWith (s.writeArray budget) where
  mem {v w c} hc hw := by
    cases v with
    | array r =>
      obtain rfl := Option.some.inj hc
      obtain ⟨i, hi⟩ := List.getElem?_of_mem hw
      rw [Array.getElem?_toList] at hi
      exact List.mem_map.mpr ⟨r.index, List.mem_range.mpr (index_lt_of_array hi), rfl⟩
    | _ => cases hc
  lt {v w} hc hw := by
    cases v with
    | proc body =>
      have hlt : sizeOf w < sizeOf body := List.sizeOf_lt_of_mem hw
      rw [Value.proc.sizeOf_spec]
      exact Nat.lt_add_left 1 hlt
    | array r => cases hc
    | _ => cases hw
  direct {budget path v texts} hc h := by
    cases v with
    | array r => cases hc
    | proc body => exact (Value.writes_writeSpacedWith h).bind (Writer.writes_pure _ _)
    | _ => exact Writer.writes_pure _ _
  cut {budget path v c} hc hopen := by
    cases v with
    | array r =>
      obtain rfl := Option.some.inj hc
      exact Writer.writes_once_of_mem hopen
    | _ => cases hc
  opened {budget path v c texts} hc hclosed h := by
    cases v with
    | array r =>
      obtain rfl := Option.some.inj hc
      exact Writer.writes_once hclosed
        ((Value.writes_writeSpacedWith h).bind (Writer.writes_pure _ _))
    | _ => cases hc

/-- **Printing ends**, in every store, with the text that is written in the printed form. -/
theorem Value.written_display_iff {s : Store} {v : Value} {text : List Char} :
    Form.display.Written s [] v text ↔ text = v.chars s := by
  refine s.isWrittenBy_display.written_iff (.nil ?_)
  rw [List.length_map, List.length_range]
  exact Nat.lt_succ_self _

/-! ## The inspection form -/

/-- How a binding is inspected: the name, a colon, and the text of what the name is bound to. -/
def Form.binding (entry : Name × Value) (text : List Char) : List Char :=
  entry.1.inspectChars ++ ':' :: ' ' :: text

/-- How a value is inspected: elements and bindings with commas between them, each value under a
title. Arrays and dictionaries are cells. -/
def Form.inspection : Form Cell where
  cell?
    | .array r => some (.array r)
    | .dict r => some (.dict r)
    | _ => none
  parts s
    | .array r => (s.array r).toList
    | .proc body => body
    | .dict r => (s.dict r).sorted.map Prod.snd
    | _ => []
  frame s v texts :=
    match v with
    | .number (.int n) => Value.titled "Int" (Number.int n).inspectChars
    | .number (.real x) => Value.titled "Real" (Number.real x).inspectChars
    | .bool b => Value.titled "Bool" (if b then "true" else "false").toList
    | .name n => Value.titled "Name" n.inspectChars
    | .array _ =>
      Value.titled "Array" (Value.titled "Shared" ('[' :: [',', ' '].intercalate texts ++ [']']))
    | .proc _ =>
      Value.titled "Proc" (Value.titled "Procedure" ('[' :: [',', ' '].intercalate texts ++ [']']))
    | .dict r =>
      Value.titled "Dict" (Value.titled "Shared"
        ('{' :: [',', ' '].intercalate (List.zipWith binding (s.dict r).sorted texts) ++ ['}']))
    | .operator op => Value.titled "Operator" op.title.toList
    | .call n => Value.titled "Call" n.inspectChars
    | .unknown n => Value.titled "Unknown" n.inspectChars
  short
    | .array _ => Value.titled "Array" Store.sharedEllipsis
    | .dict _ => Value.titled "Dict" Store.sharedEllipsis
    | _ => Store.sharedEllipsis

namespace Value

variable {cell : Cell → Writer Cell (List Char)} {path : List Cell} {texts : Value → List Char}

theorem writes_inspectAllWith {vs : List Value}
    (h : ∀ w ∈ vs, (w.inspectWith cell).Writes path (texts w)) :
    (inspectAllWith cell vs).Writes path ([',', ' '].intercalate (vs.map texts)) :=
  Writer.writes_intercalate (·.inspectWith cell) (inspectAllWith cell) rfl (fun _ => rfl)
    (fun _ _ _ => rfl) vs h

theorem writes_inspectBindings {entries : List (Name × Value)}
    (h : ∀ w ∈ entries.map Prod.snd, (w.inspectWith cell).Writes path (texts w)) :
    (inspectBindings cell entries).Writes path
      ([',', ' '].intercalate
        (List.zipWith Form.binding entries ((entries.map Prod.snd).map texts))) := by
  rw [List.map_map, List.zipWith_map_right, List.zipWith_self]
  exact Writer.writes_intercalate (inspectBinding cell) (inspectBindings cell) rfl (fun _ => rfl)
    (fun _ _ _ => rfl) entries fun entry hentry =>
      (h entry.2 (List.mem_map_of_mem hentry)).bind (Writer.writes_pure _ _)

end Value

/-- Values are inspected in the inspection form. -/
theorem Store.isWrittenBy_inspection (s : Store) :
    Form.inspection.IsWrittenBy s
      ((List.range s.arrays.size).map (.array ∘ ArrayRef.mk) ++
        (List.range s.dicts.size).map (.dict ∘ DictRef.mk))
      fun budget v => v.inspectWith (s.inspectCell budget) where
  mem {v w c} hc hw := by
    cases v with
    | array r =>
      obtain rfl := Option.some.inj hc
      obtain ⟨i, hi⟩ := List.getElem?_of_mem hw
      rw [Array.getElem?_toList] at hi
      exact List.mem_append_left _
        (List.mem_map.mpr ⟨r.index, List.mem_range.mpr (index_lt_of_array hi), rfl⟩)
    | dict r =>
      obtain rfl := Option.some.inj hc
      obtain ⟨⟨n, w⟩, hentry, rfl⟩ := List.mem_map.mp hw
      have hget := Dictionary.get?_eq_some_iff.mpr (List.mem_mergeSort.mp hentry)
      exact List.mem_append_right _
        (List.mem_map.mpr ⟨r.index, List.mem_range.mpr (index_lt_of_dict hget), rfl⟩)
    | _ => cases hc
  lt {v w} hc hw := by
    cases v with
    | proc body =>
      have hlt : sizeOf w < sizeOf body := List.sizeOf_lt_of_mem hw
      rw [Value.proc.sizeOf_spec]
      exact Nat.lt_add_left 1 hlt
    | array r => cases hc
    | dict r => cases hc
    | _ => cases hw
  direct {budget path v texts} hc h := by
    cases v with
    | array r => cases hc
    | dict r => cases hc
    | proc body => exact (Value.writes_inspectAllWith h).bind (Writer.writes_pure _ _)
    | number n => cases n <;> exact Writer.writes_pure _ _
    | _ => exact Writer.writes_pure _ _
  cut {budget path v c} hc hopen := by
    cases v with
    | array r =>
      obtain rfl := Option.some.inj hc
      exact (Writer.writes_once_of_mem hopen).map _
    | dict r =>
      obtain rfl := Option.some.inj hc
      exact (Writer.writes_once_of_mem hopen).map _
    | _ => cases hc
  opened {budget path v c texts} hc hclosed h := by
    cases v with
    | array r =>
      obtain rfl := Option.some.inj hc
      have hinside : (s.inspectContents (s.inspectCell budget) (.array r)).Writes (.array r :: path)
          (Value.titled "Shared"
            ('[' :: [',', ' '].intercalate ((s.array r).toList.map texts) ++ [']'])) :=
        (Value.writes_inspectAllWith h).bind (Writer.writes_pure _ _)
      exact (Writer.writes_once hclosed hinside).map (Value.titled "Array")
    | dict r =>
      obtain rfl := Option.some.inj hc
      have hinside : (s.inspectContents (s.inspectCell budget) (.dict r)).Writes (.dict r :: path)
          (Value.titled "Shared" ('{' :: [',', ' '].intercalate (List.zipWith Form.binding
            (s.dict r).sorted (((s.dict r).sorted.map Prod.snd).map texts)) ++ ['}'])) :=
        (Value.writes_inspectBindings h).bind (Writer.writes_pure _ _)
      exact (Writer.writes_once hclosed hinside).map (Value.titled "Dict")
    | _ => cases hc

/-- **Inspecting ends**, in every store, with the text that is written in the inspection form. -/
theorem Value.written_inspection_iff {s : Store} {v : Value} {text : List Char} :
    Form.inspection.Written s [] v text ↔ text = (v.inspect s).toList := by
  rw [inspect, String.toList_ofList]
  refine s.isWrittenBy_inspection.written_iff (.nil ?_)
  rw [List.length_append, List.length_map, List.length_map, List.length_range, List.length_range]
  exact Nat.lt_succ_self _

end StackScript
