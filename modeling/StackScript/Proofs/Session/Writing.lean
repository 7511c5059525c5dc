import StackScript.Proofs.Session.Action
import StackScript.Proofs.Value.Reachable

/-!
# What a run writes

A step of a run writes at one place at most: `put` at that of the array it is given, and `def` at
that of the innermost frame (`Primitive.target?`). Everything else that was handed out is left as it
is, so a run changes only what one of its steps is about to write
(`Session.changesOnly_of_visits`).

A procedure contains its body and nobody can get at the list of its elements. But the array literals
among them are places of the store, made once when the program was loaded, and running the body
hands these very places out. So a procedure stays what it is as long as nothing is written that can
be reached from it, and not longer: `put` does not ask where it got an array from, and a value that
it stores in a literal is there the next time the body is run (`procedure_changes_by_writing`).
-/

namespace StackScript

/-! ## Changes to the store -/

namespace Store

/-- Whether a place was handed out. -/
def Has (s : Store) : Cell → Prop
  | .array r => r.index < s.arrays.size
  | .dict r => r.index < s.dicts.size

/-- What was handed out stays so, and what is there is the same except at the given places. -/
structure ChangesOnly (s s' : Store) (W : Set Cell) : Prop where
  /-- no place is taken back -/
  has : ∀ {c : Cell}, s.Has c → s'.Has c
  /-- elsewhere there is the same -/
  agrees : ∀ {c : Cell}, s.Has c → c ∉ W → s.AgreesAt s' c

variable {s s' s'' : Store} {W X : Set Cell} {c : Cell}

theorem AgreesAt.refl (s : Store) (c : Cell) : s.AgreesAt s c := by
  cases c <;> rfl

theorem AgreesAt.trans (h₁ : s.AgreesAt s' c) (h₂ : s'.AgreesAt s'' c) : s.AgreesAt s'' c := by
  cases c with
  | array r => exact Eq.trans h₂ h₁
  | dict r => exact Eq.trans h₂ h₁

/-- What can be reached lies in every set that the value and the contents of the set refer to. -/
theorem Reachable.mem {v : Value} {G : Set Cell} (h : s.Reachable v c) (hv : v.Within G)
    (hG : ∀ d ∈ G, ∀ w, s.Contains w d → w.Within G) : c ∈ G := by
  induction h with
  | here hc => exact hv _ hc
  | further _ hw hd ih => exact hG _ ih _ hw _ hd

/-- Where there is the same, the same values are contained. -/
theorem AgreesAt.contains_iff {v : Value} (h : s.AgreesAt s' c) :
    s'.Contains v c ↔ s.Contains v c := by
  cases c with
  | array r => rw [Contains, Contains, show s'.array r = s.array r from h]
  | dict r => rw [Contains, Contains, show s'.dict r = s.dict r from h]

namespace ChangesOnly

theorem refl (s : Store) (W : Set Cell) : s.ChangesOnly s W :=
  ⟨id, fun _ _ => .refl s _⟩

theorem trans (h₁ : s.ChangesOnly s' W) (h₂ : s'.ChangesOnly s'' W) : s.ChangesOnly s'' W :=
  ⟨fun hc => h₂.has (h₁.has hc), fun hc hW => (h₁.agrees hc hW).trans (h₂.agrees (h₁.has hc) hW)⟩

theorem mono (h : s.ChangesOnly s' W) (hsub : W ⊆ X) : s.ChangesOnly s' X :=
  ⟨h.has, fun hc hX => h.agrees hc fun hW => hX (hsub hW)⟩

/-- Storing a value writes at the place of the array. -/
theorem put {r : ArrayRef} (hr : .array r ∈ W) (i : Nat) (v : Value) :
    s.ChangesOnly (s.put r i v) W where
  has {c} hc := by
    cases c with
    | array t =>
      change t.index < (s.arrays.modify r.index _).size
      rw [Array.size_modify]
      exact hc
    | dict t => exact hc
  agrees {c} _ hW := by
    cases c with
    | array t =>
      change (s.put r i v).array t = s.array t
      rw [array_put, if_neg]
      rintro rfl
      exact hW hr
    | dict t => rfl

/-- Binding a name writes at the place of the dictionary. -/
theorem bind {r : DictRef} (hr : .dict r ∈ W) (n : Name) (v : Value) :
    s.ChangesOnly (s.bind r n v) W where
  has {c} hc := by
    cases c with
    | array t => exact hc
    | dict t =>
      change t.index < (s.dicts.modify r.index _).size
      rw [Array.size_modify]
      exact hc
  agrees {c} _ hW := by
    cases c with
    | array t => rfl
    | dict t =>
      change (s.bind r n v).dict t = s.dict t
      rw [dict_bind, if_neg]
      rintro ⟨rfl, -⟩
      exact hW hr

/-- A new array is at a place that was not handed out before. -/
theorem allocArray (s : Store) (items : Array Value) (W : Set Cell) :
    s.ChangesOnly (s.allocArray items).2 W where
  has {c} hc := by
    cases c with
    | array t =>
      change t.index < (s.arrays.push items).size
      rw [Array.size_push]
      exact Nat.lt_succ_of_lt hc
    | dict t => exact hc
  agrees {c} hc _ := by
    cases c with
    | array t =>
      change (s.allocArray items).2.array t = s.array t
      rw [array_allocArray, if_neg]
      rintro rfl
      exact Nat.lt_irrefl _ hc
    | dict t => rfl

/-- So is a new dictionary. -/
theorem allocDict (s : Store) (d : Dictionary) (W : Set Cell) :
    s.ChangesOnly (s.allocDict d).2 W where
  has {c} hc := by
    cases c with
    | array t => exact hc
    | dict t =>
      change t.index < (s.dicts.push d).size
      rw [Array.size_push]
      exact Nat.lt_succ_of_lt hc
  agrees {c} hc _ := by
    cases c with
    | array t => rfl
    | dict t =>
      change (s.allocDict d).2.dict t = s.dict t
      rw [dict_allocDict, if_neg]
      rintro rfl
      exact Nat.lt_irrefl _ hc

end ChangesOnly

end Store

/-! ## Loading a program -/

mutual

/-- Loading an array literal only allocates. -/
theorem NumberTree.changesOnly_load (s : Store) (tree : NumberTree) (W : Set Cell) :
    s.ChangesOnly (tree.load s).2 W := by
  cases tree with
  | leaf n => exact .refl s W
  | node items => exact (NumberTree.changesOnly_loadAll s items W).trans (.allocArray _ _ W)

/-- So does loading several. -/
theorem NumberTree.changesOnly_loadAll (s : Store) (trees : List NumberTree) (W : Set Cell) :
    s.ChangesOnly (NumberTree.loadAll s trees).2 W := by
  cases trees with
  | nil => exact .refl s W
  | cons tree rest =>
    exact (NumberTree.changesOnly_load s tree W).trans (NumberTree.changesOnly_loadAll _ rest W)

end

mutual

/-- Loading a term only allocates. -/
theorem Term.changesOnly_load (s : Store) (term : Term) (W : Set Cell) :
    s.ChangesOnly (term.load s).2 W := by
  cases term with
  | array items => exact NumberTree.changesOnly_load s (.node items) W
  | proc body => exact Term.changesOnly_loadAll s body W
  | _ => exact .refl s W

/-- So does loading several. -/
theorem Term.changesOnly_loadAll (s : Store) (terms : List Term) (W : Set Cell) :
    s.ChangesOnly (Term.loadAll s terms).2 W := by
  cases terms with
  | nil => exact .refl s W
  | cons term rest =>
    exact (Term.changesOnly_load s term W).trans (Term.changesOnly_loadAll _ rest W)

end

/-! ## Primitives -/

namespace Primitive

/-- The place that a primitive is about to write, if it goes ahead: `put` at the array it is given,
and `def` at the innermost frame. -/
def target? (m : Machine) : Primitive → Option Cell
  | .put =>
    match m.operands with
    | _ :: _ :: .array r :: _ => some (.array r)
    | _ => none
  | .define => m.scopes.top?.map .dict
  | _ => none

variable {m after : Machine} {op : Operator}

theorem store_withOne {f : Value → Except Fault (List Value)} (h : m.withOne op f = .ok after) :
    after.store = m.store := by
  rw [Machine.withOne] at h
  split at h
  · obtain ⟨results, -, rfl⟩ := exists_of_map_eq_ok h
    rfl
  · cases h

theorem store_withTwo {f : Value → Value → Except Fault (List Value)}
    (h : m.withTwo op f = .ok after) : after.store = m.store := by
  rw [Machine.withTwo] at h
  split at h
  · obtain ⟨results, -, rfl⟩ := exists_of_map_eq_ok h
    rfl
  · cases h

/-- Primitives other than three leave the store as it is. -/
theorem store_apply {mode : Mode} {p : Primitive} (hput : p ≠ .put) (hdict : p ≠ .dict)
    (hdefine : p ≠ .define) (h : p.apply mode m = .ok after) : after.store = m.store := by
  cases p with
  | put => exact absurd rfl hput
  | dict => exact absurd rfl hdict
  | define => exact absurd rfl hdefine
  | add | sub | mul | div | mod | lt | gt | eq | and | or | get | exch => exact store_withTwo h
  | neg | length | not | dup | pop => exact store_withOne h
  | clear | count =>
    cases h
    rfl
  | stack =>
    obtain ⟨sink, hsink⟩ := printAll_eq m
    rw [apply, hsink] at h
    cases h
    rfl
  | print =>
    rw [apply, Machine.printTop] at h
    split at h <;> cases h
    rfl
  | copy =>
    rw [apply, Machine.copy] at h
    split at h
    · split at h
      · cases h
      · split at h <;> cases h
        rfl
    · cases h
    · cases h
  | beginScope =>
    rw [apply, Machine.beginScope] at h
    split at h
    · cases h
      rfl
    · split at h <;> cases h
      rfl
    · split at h <;> cases h
      rfl
  | endScope =>
    rw [apply, Machine.endScope] at h
    split at h <;> cases h
    rfl

/-- **What primitives write**: a primitive changes the store at its target, and nowhere else. -/
theorem changesOnly_apply {mode : Mode} {p : Primitive} (h : p.apply mode m = .ok after) :
    m.store.ChangesOnly after.store {c | p.target? m = some c} := by
  by_cases hput : p = .put
  · subst hput
    rw [apply, Machine.put] at h
    split at h
    · next v index array rest hops =>
      obtain ⟨⟨r, i⟩, helement, rfl⟩ := exists_of_map_eq_ok h
      obtain ⟨rfl, -⟩ := eq_array_of_element helement
      refine .put ?_ i v
      change target? m .put = some (.array r)
      rw [target?, hops]
    · cases h
  by_cases hdict : p = .dict
  · subst hdict
    rw [apply, Machine.newDict] at h
    split at h
    · obtain ⟨n, -, rfl⟩ := exists_of_map_eq_ok h
      exact .allocDict _ _ _
    · cases h
  by_cases hdefine : p = .define
  · subst hdefine
    rw [apply, Machine.define] at h
    split at h
    · obtain ⟨n, -, hbound⟩ := exists_of_bind_eq_ok h
      obtain ⟨⟨scopes, store⟩, hdefine, hafter⟩ := exists_of_bind_eq_ok hbound
      cases hafter
      obtain ⟨-, ⟨-, -, rfl⟩ | ⟨frame, outer, hframes, -, rfl⟩⟩ := Scopes.define_eq_ok hdefine
      · exact .allocDict _ _ _
      · refine .bind ?_ _ _
        change target? m .define = some (.dict frame)
        rw [target?, Scopes.top?, hframes]
        rfl
    · cases h
  · rw [store_apply hput hdict hdefine h]
    exact .refl _ _

end Primitive

/-! ## Runs -/

/-- The place that is about to be written when an element is executed. -/
def Value.target? (m : Machine) : Value → Option Cell
  | .operator (.primitive p) => p.target? m
  | _ => none

/-- The place that the next step of a run is about to write. -/
def Configuration.target? : Configuration → Option Cell
  | .running (.elements (item :: _) :: _) s => item.target? s.machine
  | _ => none

section Steps

variable (policy : Policy)

/-- Beginning to execute an element changes the store at its target, and nowhere else. -/
theorem changesOnly_beginElement (item : Value) (tasks : List Task) (s : State) :
    s.machine.store.ChangesOnly (beginElement policy item tasks s).state.machine.store
      {c | item.target? s.machine = some c} := by
  cases item with
  | operator op =>
    cases op with
    | primitive p =>
      rw [beginElement, perform_primitive]
      rcases h : p.apply policy.mode s.machine with f | m
      · exact .refl _ _
      · exact Primitive.changesOnly_apply h
    | control c =>
      rw [beginElement, perform_control]
      rcases h : c.prepare s.machine with f | ⟨passes, m⟩
      · exact .refl _ _
      · obtain ⟨rest, -, rfl⟩ := Control.effect_of_prepare h
        dsimp only [Control.settledPasses]
        rw [machine_beginPasses]
        exact .refl _ _
  | call n =>
    rw [beginElement]
    split
    · exact .refl _ _
    · split
      · exact .refl _ _
      · split
        · rw [machine_openBody]
          exact .refl _ _
        · exact .refl _ _
  | _ => exact .refl _ _

/-- **What a step writes**: a step of a run changes the store at its target, and nowhere else. -/
theorem changesOnly_advance (c : Configuration) :
    c.state.machine.store.ChangesOnly (advance policy c).state.machine.store
      {cell | c.target? = some cell} := by
  cases c with
  | finished outcome => exact .refl _ _
  | raising f tasks s =>
    rcases tasks with _ | ⟨task, tasks⟩
    · exact .refl _ _
    cases task with
    | elements rest =>
      rw [advance]
      split <;> exact .refl _ _
    | _ => exact .refl _ _
  | running tasks s =>
    rcases tasks with _ | ⟨task, tasks⟩
    · exact .refl _ _
    cases task with
    | elements items =>
      cases items with
      | nil => exact .refl _ _
      | cons item rest => exact changesOnly_beginElement policy item _ s
    | leave => exact .refl _ _
    | count body current step limit =>
      rw [advance]
      split
      · rw [machine_openBody]
        exact .refl _ _
      · exact .refl _ _
    | counted body current step limit =>
      rw [advance]
      split <;> exact .refl _ _
    | each body values =>
      cases values with
      | nil => exact .refl _ _
      | cons v rest =>
        rw [advance, machine_openBody]
        exact .refl _ _

/-- Several steps change the store at the targets of these steps, and nowhere else. -/
theorem changesOnly_iterate {W : Set Cell} {c : Configuration}
    (h : ∀ n cell, ((advance policy)^[n] c).target? = some cell → cell ∈ W) (n : Nat) :
    c.state.machine.store.ChangesOnly ((advance policy)^[n] c).state.machine.store W := by
  induction n with
  | zero => exact .refl _ _
  | succ n ih =>
    rw [Function.iterate_succ_apply']
    exact ih.trans ((changesOnly_advance policy _).mono (h n))

/-- Where nothing is left to be done, nothing is written. -/
theorem target?_iterate_resume (outcome : Outcome) (n : Nat) :
    ((advance policy)^[n] (.resume [] outcome)).target? = none := by
  have hadvance : advance policy (.resume [] outcome) = .finished outcome := by
    cases outcome <;> rfl
  cases n with
  | zero => cases outcome <;> rfl
  | succ n =>
    rw [Function.iterate_succ_apply, hadvance, Function.iterate_fixed rfl]
    rfl

end Steps

namespace Session

/-- Whether an action is to make the machine run. -/
def Action.isRun : Action → Bool
  | .run _ | .execute _ | .call _ => true
  | _ => false

/-- A place is about to be written in the course of an action, by the operator that is invoked or by
a step of the run that is started. -/
inductive Writes (s : Session) : Action → Cell → Prop where
  /-- by the operator that is invoked -/
  | call {op : Operator} {cell : Cell}
    (h : (Value.operator op).target? s.state.machine = some cell) : Writes s (.call op) cell
  /-- in the midst of a run -/
  | during {a : Action} {c : Configuration} {cell : Cell} (hstart : a.start? s = some c) (n : Nat)
    (h : ((advance s.policy)^[n] c).target? = some cell) : Writes s a cell

variable {s t : Session} {a : Action}

/-- Where a run starts, nothing is changed but what an operator that is invoked writes. -/
theorem changesOnly_start {c : Configuration} (h : a.start? s = some c) :
    s.store.ChangesOnly c.state.machine.store {cell | s.Writes a cell} := by
  cases a with
  | execute items =>
    obtain rfl := Option.some.inj h
    exact .refl _ _
  | call op =>
    obtain rfl := Option.some.inj h
    exact (changesOnly_beginElement s.policy (.operator op) [] s.state).mono fun _ => .call
  | run source =>
    rw [Action.start?] at h
    rcases hparse : Program.parse source with e | program <;> rw [hparse] at h
    · cases h
    · obtain rfl := Option.some.inj h
      exact Term.changesOnly_loadAll _ _ _
  | _ => cases h

/-- In the course of a run the machine is the one before it, or one that the run comes to. -/
theorem machine_of_visits (ha : a.isRun = true) (hvisits : Visits s [a] t) :
    t.state.machine = s.state.machine ∨ ∃ c n, a.start? s = some c ∧
      t.state.machine = ((advance s.policy)^[n] c).state.machine := by
  cases hvisits with
  | here => exact .inl rfl
  | during hstart n => exact .inr ⟨_, n, hstart, rfl⟩
  | inside _ => cases ha
  | after hvisits =>
    cases hvisits
    rcases hstart : a.start? s with _ | c
    · cases a with
      | run source =>
        rw [perform_run_of_start? hstart]
        exact .inl rfl
      | execute items => cases hstart
      | call op => cases hstart
      | _ => cases ha
    · obtain ⟨n, hn⟩ := exists_machine_perform hstart
      exact .inr ⟨c, n, rfl, hn.symm⟩

/-- **What a run writes**: at no point of a run is anything changed that was there before and that
no step is about to write. -/
theorem changesOnly_of_visits (ha : a.isRun = true) (hvisits : Visits s [a] t) :
    s.store.ChangesOnly t.store {cell | s.Writes a cell} := by
  rw [store, store]
  rcases machine_of_visits ha hvisits with hsame | ⟨c, n, hstart, hmachine⟩
  · rw [hsame]
    exact .refl _ _
  · rw [hmachine]
    exact (changesOnly_start hstart).trans
      (changesOnly_iterate s.policy (fun n _ => .during hstart n) n)

/-- The call of a primitive writes at its target, and nowhere else. -/
theorem writes_call_primitive {p : Primitive} {cell : Cell} :
    s.Writes (.call (.primitive p)) cell ↔ p.target? s.state.machine = some cell := by
  refine ⟨fun h => ?_, fun h => .call h⟩
  cases h with
  | call h => exact h
  | during hstart n h =>
    -- the operator has been executed in the first step, and nothing else is to be done
    have houtcome : ∃ outcome, Configuration.startCall s.policy (.primitive p) s.state =
        .resume [] outcome := by
      rw [Configuration.startCall, beginElement, perform_primitive]
      rcases p.apply s.policy.mode s.state.machine with f | m
      · exact ⟨.raised f s.state, rfl⟩
      · exact ⟨.done { s.state with machine := m }, rfl⟩
    obtain ⟨outcome, houtcome⟩ := houtcome
    obtain rfl := Option.some.inj hstart
    rw [houtcome, target?_iterate_resume] at h
    cases h

/-- A `put` whose operands are in order stores its value. -/
theorem perform_put {v index : Value} {r : ArrayRef} {i : Nat} {rest : Operands}
    (hops : s.operands = v :: index :: .array r :: rest)
    (helement : s.store.element (.primitive .put) (.array r) index = .ok (r, i)) :
    s.perform (.call (.primitive .put)) = s.mapMachine fun m =>
      { m with operands := .array r :: rest, store := m.store.put r i v } := by
  have happly : Primitive.put.apply s.policy.mode s.state.machine =
      .ok { s.state.machine with
        operands := .array r :: rest, store := s.state.machine.store.put r i v } := by
    rw [Primitive.apply, Machine.put, show s.state.machine.operands = _ from hops]
    dsimp only
    rw [show s.state.machine.store.element _ _ _ = _ from helement]
    rfl
  rw [perform, call_primitive_of_ok happly]
  rfl

/-! ## Procedures -/

end Session

namespace Value

/-- Whether what can be reached from a value is the same in another store. -/
structure SameIn (v : Value) (s s' : Store) : Prop where
  /-- the same places can be reached -/
  reachable_iff : ∀ c, s'.Reachable v c ↔ s.Reachable v c
  /-- and there is the same at these places -/
  agrees : ∀ c, s.Reachable v c → s.AgreesAt s' c

/-- If there is the same at the places that can be reached, then no others can be reached. -/
theorem sameIn_of_agrees {v : Value} {s s' : Store}
    (h : ∀ c, s.Reachable v c → s.AgreesAt s' c) : v.SameIn s s' where
  reachable_iff c := by
    constructor
    · intro hc
      induction hc with
      | here hc => exact .here hc
      | further _ hw hd ih => exact .further ih ((h _ ih).contains_iff.mp hw) hd
    · intro hc
      induction hc with
      | here hc => exact .here hc
      | further hc hw hd ih => exact .further ih ((h _ hc).contains_iff.mpr hw) hd
  agrees := h

end Value

namespace Session

/-- **Procedures change by writing.** A procedure all of whose places were handed out:

* is the same at every point of a run or of an operator call, if no place that can be reached from
  it is written on the way;
* is no longer the same once `put` has stored, in an array that can be reached from it, a value
  that was not there before; and `put` does store it. -/
theorem procedure_changes_by_writing (s : Session) (body : List Value)
    (hbody : ∀ c, s.store.Reachable (.proc body) c → s.store.Has c) :
    (∀ a, a.isRun = true → (∀ c, s.store.Reachable (.proc body) c → ¬ s.Writes a c) →
      ∀ t, Visits s [a] t → (Value.proc body).SameIn s.store t.store) ∧
      ∀ v index r i rest, s.operands = v :: index :: .array r :: rest →
        s.store.element (.primitive .put) (.array r) index = .ok (r, i) →
        s.store.Reachable (.proc body) (.array r) → (s.store.array r)[i]? ≠ some v →
          let after := s.perform (.call (.primitive .put))
          (after.store.array r)[i]? = some v ∧ ¬ (Value.proc body).SameIn s.store after.store := by
  refine ⟨fun a ha hwrites t hvisits => ?_, fun v index r i rest hops helement hr hv => ?_⟩
  · refine Value.sameIn_of_agrees fun c hc => ?_
    exact (changesOnly_of_visits ha hvisits).agrees (hbody c hc) (hwrites c hc)
  · have hi : i < (s.store.array r).size := (Primitive.eq_array_of_element helement).2
    have hafter : (s.perform (.call (.primitive .put))).store.array r =
        (s.store.array r).setIfInBounds i v := by
      rw [perform_put hops helement]
      exact (Store.array_put _ r r i v).trans (if_pos rfl)
    have hstored : ((s.perform (.call (.primitive .put))).store.array r)[i]? = some v := by
      rw [hafter, Array.getElem?_setIfInBounds_self_of_lt hi]
    refine ⟨hstored, fun hsame => hv ?_⟩
    rw [← hstored, show _ = s.store.array r from hsame.agrees _ hr]

/-- A procedure with one array literal in it: taking an operand leaves it as it is, and storing a
value in the literal does not. -/
theorem procedure_changes_by_writing_of_literal :
    let s := (fresh .standard .silent).performAll
      [.arrange fun store => (store.allocArray #[.number (.int 1), .number (.int 2)]).2,
        .push (.array ⟨0⟩), .push (.number (.int 0)), .push (.number (.int 9))]
    let p := Value.proc [.array ⟨0⟩]
    (∀ c, s.store.Reachable p c → s.store.Has c) ∧
      p.SameIn s.store (s.perform (.call (.primitive .pop))).store ∧
      ¬ p.SameIn s.store (s.perform (.call (.primitive .put))).store := by
  intro s p
  have hreach (c : Cell) (hc : s.store.Reachable p c) : c = .array ⟨0⟩ := by
    refine hc.mem (G := {.array ⟨0⟩}) ?_ ?_
    · exact Value.Within.proc_iff.mpr (List.forall_mem_singleton.mpr (.array rfl))
    · rintro _ rfl w hw
      obtain rfl | rfl : w = .number (.int 1) ∨ w = .number (.int 2) := by
        simpa using show w ∈ #[Value.number (.int 1), .number (.int 2)] from hw
      all_goals exact .number _
  have hhas (c : Cell) (hc : s.store.Reachable p c) : s.store.Has c := by
    obtain rfl := hreach c hc
    exact Nat.zero_lt_one
  have hmain := procedure_changes_by_writing s [.array ⟨0⟩] hhas
  refine ⟨hhas, hmain.1 _ rfl (fun c _ hw => ?_) _ (.after .here), ?_⟩
  · cases writes_call_primitive.mp hw
  · refine (hmain.2 (.number (.int 9)) (.number (.int 0)) ⟨0⟩ 0 [] rfl rfl
      (.here (.inside List.mem_cons_self (.array _))) ?_).2
    intro hsame
    cases hsame

/-- So it is not true that a procedure is the same after a run as before: a run of the procedure can
store a value in an array literal of its body. -/
theorem not_sameIn_of_run :
    ¬ ∀ (s : Session) (bare : String) (body : List Value) (a : Action),
      s.lookup bare = .ok (.proc body) → a.isRun = true →
        (Value.proc body).SameIn s.store (s.perform a).store := by
  intro h
  -- what the program `/p {[1 2]} def` leaves behind
  let s := (fresh .standard .silent).performAll
    [.arrange fun store => (store.allocArray #[.number (.int 1), .number (.int 2)]).2,
      .define ⟨"/p"⟩ (.proc [.array ⟨0⟩])]
  have hsame := h s "p" [.array ⟨0⟩] (.run "p 0 9 put pop") rfl rfl
  have hagrees := hsame.agrees (.array ⟨0⟩) (.here (.inside List.mem_cons_self (.array _)))
  have hfirst := congrArg (fun items : Array Value => items[0]?.bind Value.toInt?) hagrees
  exact absurd hfirst (by decide +kernel)

end Session

end StackScript
