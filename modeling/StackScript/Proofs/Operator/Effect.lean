import StackScript.Proofs.Operator.Atomic

/-!
# What operators can do

`Primitive.Effect` lists what a primitive can have done to a machine that it has changed, and
`Control.Effect` what a control operator can have found on the stack when it goes ahead. It is
proved once for all operators that there is nothing else (`Primitive.effect_of_apply`,
`Control.effect_of_prepare`); what is said about all of them further on is said by these cases.

For most primitives it matters only where the operands come from that they leave behind. An operator
makes numbers and truth values itself, and everything else it finds: among the operands, or in an
array that is one of them (`Machine.Offers`).
-/

namespace StackScript

section Results

variable {α β : Type} {x : Except Fault α} {b : β}

/-- If a result comes of two steps, then one came of the first. -/
theorem exists_of_bind_eq_ok {f : α → Except Fault β} (h : (x >>= f) = .ok b) :
    ∃ a, x = .ok a ∧ f a = .ok b := by
  cases x with
  | error fault => cases h
  | ok a => exact ⟨a, rfl, h⟩

/-- If a result comes of changing another, then there was another. -/
theorem exists_of_map_eq_ok {f : α → β} (h : x.map f = .ok b) : ∃ a, x = .ok a ∧ f a = b := by
  cases x with
  | error fault => cases h
  | ok a => exact ⟨a, rfl, Except.ok.inj h⟩

end Results

/-- The values that an operator can leave on the stack without allocating anything. -/
inductive Machine.Offers (m : Machine) : Value → Prop where
  /-- a number it has computed -/
  | number (n : Number) : Offers m (.number n)
  /-- a truth value it has computed -/
  | bool (b : Bool) : Offers m (.bool b)
  /-- an operand -/
  | operand {v : Value} (h : v ∈ m.operands) : Offers m v
  /-- an element of an array -/
  | element {r : ArrayRef} {v : Value} (hr : .array r ∈ m.operands) (h : v ∈ m.store.array r) :
    Offers m v

/-! ## Primitives -/

/-- What a primitive can have done to a machine. -/
inductive Primitive.Effect (m : Machine) : Machine → Prop where
  /-- it has left other operands, and may have printed something -/
  | operands {operands : Operands} (sink : Sink) (h : ∀ v ∈ operands, m.Offers v) :
    Effect m { m with operands := operands, sink := sink }
  /-- it has stored a value in a slot of an array -/
  | put {r : ArrayRef} {i : Nat} {v index : Value} {rest : Operands}
    (h : m.operands = v :: index :: .array r :: rest) (hi : i < (m.store.array r).size) :
    Effect m { m with operands := .array r :: rest, store := m.store.put r i v }
  /-- it has allocated a dictionary -/
  | dict {hint : Value} {rest : Operands} (h : m.operands = hint :: rest) :
    Effect m { m with
      operands := .dict (m.store.allocDict .empty).1 :: rest
      store := (m.store.allocDict .empty).2 }
  /-- it has entered a scope -/
  | beginScope {r : DictRef} {rest : Operands} (h : m.operands = .dict r :: rest) :
    Effect m { m with operands := rest, scopes := m.scopes.push r }
  /-- it has left a scope -/
  | endScope {frame : DictRef} {outer : Scopes} (h : m.scopes.pop? = some (frame, outer)) :
    Effect m { m with scopes := outer }
  /-- it has bound a name -/
  | define {name : Name} {v : Value} {rest : Operands} {scopes : Scopes} {store : Store}
    (h : m.operands = v :: .name name :: rest)
    (hdefine : m.scopes.define m.store name v = .ok (scopes, store)) :
    Effect m { m with operands := rest, scopes := scopes, store := store }

/-- Duplicated operands are operands. -/
theorem Operands.mem_of_duplicateTop? {stack after : Operands} {n : Nat}
    (h : stack.duplicateTop? n = some after) {v : Value} (hv : v ∈ after) : v ∈ stack := by
  rw [duplicateTop?] at h
  split at h
  · cases h
    rcases List.mem_append.mp hv with hv | hv
    · exact List.mem_of_mem_take hv
    · exact hv
  · cases h

namespace Primitive

variable {m after : Machine} {op : Operator} {p : Primitive} {mode : Mode}

/-- What an operator has found to be an element is a slot of an array. -/
theorem eq_array_of_element {array index : Value} {r : ArrayRef} {i : Nat}
    (h : m.store.element op array index = .ok (r, i)) :
    array = .array r ∧ i < (m.store.array r).size := by
  cases array with
  | array t =>
    obtain ⟨r', hr, h⟩ := exists_of_bind_eq_ok h
    cases hr
    obtain ⟨j, -, h⟩ := exists_of_bind_eq_ok h
    dsimp only at h
    split at h
    · next hin =>
      cases h
      exact ⟨rfl, by omega⟩
    · cases h
  | _ => cases h

/-- Only a name is accepted as one that may be defined. -/
theorem eq_name_of_expectDefinable {v : Value} {n : Name} (h : v.expectDefinable op = .ok n) :
    v = .name n := by
  cases v with
  | name k =>
    rw [Value.expectDefinable] at h
    split at h
    · cases h
      rfl
    · cases h
  | _ => cases h

/-- Printing several values changes the sink and nothing else. -/
theorem printAll_eq (m : Machine) : ∃ sink, m.printAll = { m with sink := sink } := by
  have hprint (values : List Value) (m : Machine) :
      ∃ sink, values.foldl Machine.print m = { m with sink := sink } := by
    induction values generalizing m with
    | nil => exact ⟨m.sink, rfl⟩
    | cons v rest ih =>
      obtain ⟨sink, hsink⟩ := ih (m.print v)
      exact ⟨sink, hsink⟩
  exact hprint m.operands m

namespace Effect

/-- One operand is replaced by results that are on offer. -/
theorem of_withOne {f : Value → Except Fault (List Value)} (h : m.withOne op f = .ok after)
    (hf : ∀ a results, a ∈ m.operands → f a = .ok results → ∀ v ∈ results, m.Offers v) :
    Effect m after := by
  rw [Machine.withOne] at h
  split at h
  · next a rest hops =>
    obtain ⟨results, hresults, rfl⟩ := exists_of_map_eq_ok h
    refine .operands m.sink fun v hv => ?_
    rcases List.mem_append.mp hv with hv | hv
    · exact hf a results (hops ▸ List.mem_cons_self) hresults v hv
    · exact .operand (hops ▸ List.mem_cons_of_mem a hv)
  · cases h

/-- Two operands are replaced by results that are on offer. -/
theorem of_withTwo {f : Value → Value → Except Fault (List Value)}
    (h : m.withTwo op f = .ok after)
    (hf : ∀ a b results, a ∈ m.operands → b ∈ m.operands → f a b = .ok results →
      ∀ v ∈ results, m.Offers v) : Effect m after := by
  rw [Machine.withTwo] at h
  split at h
  · next b a rest hops =>
    obtain ⟨results, hresults, rfl⟩ := exists_of_map_eq_ok h
    refine .operands m.sink fun v hv => ?_
    rcases List.mem_append.mp hv with hv | hv
    · exact hf a b results (hops ▸ List.mem_cons_of_mem b List.mem_cons_self)
        (hops ▸ List.mem_cons_self) hresults v hv
    · exact .operand (hops ▸ List.mem_cons_of_mem b (List.mem_cons_of_mem a hv))
  · cases h

/-- What is made of two numbers is on offer. -/
theorem of_numbers (g : Number → Number → Except Fault (List Value))
    (h : m.withTwo op (fun a b => do
      let x ← a.expectNumber op
      let y ← b.expectNumber op
      g x y) = .ok after)
    (hg : ∀ x y results, g x y = .ok results → ∀ v ∈ results, m.Offers v) : Effect m after := by
  refine of_withTwo h fun a b results _ _ hresults => ?_
  obtain ⟨x, -, hresults⟩ := exists_of_bind_eq_ok hresults
  obtain ⟨y, -, hresults⟩ := exists_of_bind_eq_ok hresults
  exact hg x y results hresults

theorem of_arithmetic {f : Number → Number → Number} (h : arithmetic p f m = .ok after) :
    Effect m after := by
  refine of_numbers (fun x y => pure [.number (f x y)]) h fun x y results hresults => ?_
  cases hresults
  exact List.forall_mem_singleton.mpr (.number _)

theorem of_division {f : Number → Number → Number} (h : division p f m = .ok after) :
    Effect m after := by
  refine of_numbers (fun x y => if y.isZero then .error (.byZero (.primitive p)) else
    pure [.number (f x y)]) h fun x y results hresults => ?_
  split at hresults
  · cases hresults
  · cases hresults
    exact List.forall_mem_singleton.mpr (.number _)

theorem of_comparison {f : Number → Number → Bool} (h : comparison p f m = .ok after) :
    Effect m after := by
  refine of_numbers (fun x y => pure [.bool (f x y)]) h fun x y results hresults => ?_
  cases hresults
  exact List.forall_mem_singleton.mpr (.bool _)

theorem of_logic {f : Bool → Bool → Bool} (h : logic p f m = .ok after) : Effect m after := by
  refine of_withTwo h fun a b results _ _ hresults => ?_
  obtain ⟨x, -, hresults⟩ := exists_of_bind_eq_ok hresults
  obtain ⟨y, -, hresults⟩ := exists_of_bind_eq_ok hresults
  cases hresults
  exact List.forall_mem_singleton.mpr (.bool _)

theorem of_neg (h : apply mode .neg m = .ok after) : Effect m after := by
  refine of_withOne h fun a results _ hresults => ?_
  obtain ⟨x, -, rfl⟩ := exists_of_map_eq_ok hresults
  exact List.forall_mem_singleton.mpr (.number _)

theorem of_length (h : apply mode .length m = .ok after) : Effect m after := by
  refine of_withOne h fun a results _ hresults => ?_
  obtain ⟨x, -, rfl⟩ := exists_of_map_eq_ok hresults
  exact List.forall_mem_singleton.mpr (.number _)

theorem of_not (h : apply mode .not m = .ok after) : Effect m after := by
  refine of_withOne h fun a results _ hresults => ?_
  obtain ⟨x, -, rfl⟩ := exists_of_map_eq_ok hresults
  exact List.forall_mem_singleton.mpr (.bool _)

theorem of_get (h : apply mode .get m = .ok after) : Effect m after := by
  refine of_withTwo h fun array index results harray _ hresults v hv => ?_
  obtain ⟨⟨r, i⟩, helement, rfl⟩ := exists_of_map_eq_ok hresults
  obtain ⟨rfl, -⟩ := eq_array_of_element helement
  exact .element harray (Array.mem_of_getElem? (Option.mem_toList.mp hv))

theorem of_dup (h : apply mode .dup m = .ok after) : Effect m after := by
  refine of_withOne h fun a results ha hresults => ?_
  cases hresults
  simpa using Machine.Offers.operand ha

theorem of_exch (h : apply mode .exch m = .ok after) : Effect m after := by
  refine of_withTwo h fun a b results ha hb hresults => ?_
  cases hresults
  simpa using ⟨Machine.Offers.operand ha, Machine.Offers.operand hb⟩

theorem of_pop (h : apply mode .pop m = .ok after) : Effect m after := by
  refine of_withOne h fun a results _ hresults => ?_
  cases hresults
  exact List.forall_mem_nil _

theorem of_copy (h : m.copy = .ok after) : Effect m after := by
  rw [Machine.copy] at h
  split at h
  · next n rest hops =>
    split at h
    · cases h
    · split at h
      · next operands hduplicate =>
        cases h
        refine .operands m.sink fun v hv => .operand (hops ▸ List.mem_cons_of_mem _ ?_)
        exact Operands.mem_of_duplicateTop? hduplicate hv
      · cases h
  · cases h
  · cases h

theorem of_printAll : Effect m m.printAll := by
  obtain ⟨sink, hsink⟩ := printAll_eq m
  rw [hsink]
  exact .operands sink fun _ => .operand

theorem of_printTop (h : m.printTop = .ok after) : Effect m after := by
  rw [Machine.printTop] at h
  split at h
  · next v rest hops =>
    cases h
    exact .operands _ fun w hw => .operand (hops ▸ List.mem_cons_of_mem v hw)
  · cases h

theorem of_put (h : m.put = .ok after) : Effect m after := by
  rw [Machine.put] at h
  split at h
  · next v index array rest hops =>
    obtain ⟨⟨r, i⟩, helement, rfl⟩ := exists_of_map_eq_ok h
    obtain ⟨rfl, hi⟩ := eq_array_of_element helement
    exact .put hops hi
  · cases h

theorem of_newDict (h : m.newDict = .ok after) : Effect m after := by
  rw [Machine.newDict] at h
  split at h
  · next hint rest hops =>
    obtain ⟨n, -, rfl⟩ := exists_of_map_eq_ok h
    exact .dict hops
  · cases h

theorem of_beginScope (h : m.beginScope mode = .ok after) : Effect m after := by
  -- where `begin` is ignored, nothing has changed
  have hsame : Effect m m := .operands m.sink fun _ => .operand
  rw [Machine.beginScope] at h
  split at h
  · next r rest hops =>
    cases h
    exact .beginScope hops
  · split at h <;> cases h
    exact hsame
  · split at h <;> cases h
    exact hsame

theorem of_endScope (h : m.endScope = .ok after) : Effect m after := by
  rw [Machine.endScope] at h
  split at h
  · next frame outer hpop =>
    cases h
    exact .endScope hpop
  · cases h

theorem of_define (h : m.define = .ok after) : Effect m after := by
  rw [Machine.define] at h
  split at h
  · next v key rest hops =>
    obtain ⟨n, hkey, hbound⟩ := exists_of_bind_eq_ok h
    obtain ⟨⟨scopes, store⟩, hdefine, hafter⟩ := exists_of_bind_eq_ok hbound
    obtain rfl := eq_name_of_expectDefinable hkey
    cases hafter
    exact .define hops hdefine
  · cases h

end Effect

/-- **What primitives do**: a primitive that changes a machine has one of the listed effects. -/
theorem effect_of_apply (h : p.apply mode m = .ok after) : Effect m after := by
  cases p with
  | add | sub | mul => exact .of_arithmetic h
  | div | mod => exact .of_division h
  | lt | gt | eq => exact .of_comparison h
  | and | or => exact .of_logic h
  | neg => exact .of_neg h
  | length => exact .of_length h
  | not => exact .of_not h
  | get => exact .of_get h
  | dup => exact .of_dup h
  | exch => exact .of_exch h
  | pop => exact .of_pop h
  | copy => exact .of_copy h
  | clear =>
    cases h
    exact .operands m.sink (List.forall_mem_nil _)
  | stack =>
    cases h
    exact .of_printAll
  | print => exact .of_printTop h
  | count =>
    cases h
    exact .operands m.sink (List.forall_mem_cons.mpr ⟨.number _, fun _ => .operand⟩)
  | put => exact .of_put h
  | dict => exact .of_newDict h
  | beginScope => exact .of_beginScope h
  | endScope => exact .of_endScope h
  | define => exact .of_define h

end Primitive

/-! ## Control operators -/

namespace Control

/-- What a control operator can have found on the stack: it runs the passes and leaves the rest. -/
inductive Effect (m : Machine) : Control → Passes → Operands → Prop where
  /-- a truth value and a body -/
  | ifTrue {b : Bool} {body : List Value} {rest : Operands}
    (h : m.operands = .proc body :: .bool b :: rest) :
    Effect m .ifTrue (if b then .once body else .none) rest
  /-- a truth value and two bodies -/
  | ifElse {b : Bool} {body otherwise : List Value} {rest : Operands}
    (h : m.operands = .proc otherwise :: .proc body :: .bool b :: rest) :
    Effect m .ifElse (.once (if b then body else otherwise)) rest
  /-- three integers, of which the step is not zero, and a body -/
  | forLoop {start step limit : Int64} {body : List Value} {rest : Operands}
    (h : m.operands = .proc body :: .number (.int limit) :: .number (.int step) ::
      .number (.int start) :: rest) (hstep : step.toInt ≠ 0) :
    Effect m .forLoop (.counting body start step limit) rest
  /-- an array of numbers and a body -/
  | forAll {r : ArrayRef} {body : List Value} {rest : Operands}
    (h : m.operands = .proc body :: .array r :: rest)
    (hnumbers : (Value.array r).isNumberArray m.store = true) :
    Effect m .forAll (.each body (m.store.array r).toList) rest

variable {m after : Machine} {passes : Passes}

theorem effect_of_prepareIf (h : prepareIf m = .ok (passes, after)) :
    ∃ rest, Effect m .ifTrue passes rest ∧ after = { m with operands := rest } := by
  rw [prepareIf] at h
  split at h
  · next body condition rest hops =>
    obtain ⟨b, hb, h⟩ := exists_of_bind_eq_ok h
    obtain ⟨items, hbody, h⟩ := exists_of_bind_eq_ok h
    obtain rfl := Value.eq_bool_of_expectBool hb
    obtain rfl := Value.eq_proc_of_expectProc hbody
    cases h
    exact ⟨rest, .ifTrue hops, rfl⟩
  · cases h

theorem effect_of_prepareIfElse (h : prepareIfElse m = .ok (passes, after)) :
    ∃ rest, Effect m .ifElse passes rest ∧ after = { m with operands := rest } := by
  rw [prepareIfElse] at h
  split at h
  · next otherwise body condition rest hops =>
    obtain ⟨b, hb, h⟩ := exists_of_bind_eq_ok h
    obtain ⟨items, hbody, h⟩ := exists_of_bind_eq_ok h
    obtain ⟨others, hother, h⟩ := exists_of_bind_eq_ok h
    obtain rfl := Value.eq_bool_of_expectBool hb
    obtain rfl := Value.eq_proc_of_expectProc hbody
    obtain rfl := Value.eq_proc_of_expectProc hother
    cases h
    exact ⟨rest, .ifElse hops, rfl⟩
  · cases h

theorem effect_of_prepareFor (h : prepareFor m = .ok (passes, after)) :
    ∃ rest, Effect m .forLoop passes rest ∧ after = { m with operands := rest } := by
  rw [prepareFor] at h
  split at h
  · next body limit step start rest hops =>
    obtain ⟨a, hstart, h⟩ := exists_of_bind_eq_ok h
    obtain ⟨d, hstep, h⟩ := exists_of_bind_eq_ok h
    obtain ⟨b, hlimit, h⟩ := exists_of_bind_eq_ok h
    obtain ⟨items, hbody, h⟩ := exists_of_bind_eq_ok h
    obtain rfl := Value.eq_int_of_expectInt hstart
    obtain rfl := Value.eq_int_of_expectInt hstep
    obtain rfl := Value.eq_int_of_expectInt hlimit
    obtain rfl := Value.eq_proc_of_expectProc hbody
    change (if d.toInt = 0 then _ else _) = _ at h
    by_cases hzero : d.toInt = 0
    · rw [if_pos hzero] at h
      cases h
    · rw [if_neg hzero] at h
      cases h
      exact ⟨rest, .forLoop hops hzero, rfl⟩
  · cases h

theorem effect_of_prepareForAll (h : prepareForAll m = .ok (passes, after)) :
    ∃ rest, Effect m .forAll passes rest ∧ after = { m with operands := rest } := by
  rw [prepareForAll] at h
  split at h
  · next body array rest hops =>
    split at h
    · next r =>
      split at h
      · next hnumbers =>
        obtain ⟨items, hbody, h⟩ := exists_of_bind_eq_ok h
        obtain rfl := Value.eq_proc_of_expectProc hbody
        cases h
        exact ⟨rest, .forAll hops hnumbers, rfl⟩
      · cases h
    · cases h
  · cases h

/-- **What control operators do**: a control operator that goes ahead has found what it needs, and
takes it from the stack. -/
theorem effect_of_prepare {c : Control} (h : c.prepare m = .ok (passes, after)) :
    ∃ rest, Effect m c passes rest ∧ after = { m with operands := rest } := by
  cases c with
  | ifTrue => exact effect_of_prepareIf h
  | ifElse => exact effect_of_prepareIfElse h
  | forLoop => exact effect_of_prepareFor h
  | forAll => exact effect_of_prepareForAll h

end Control

end StackScript
