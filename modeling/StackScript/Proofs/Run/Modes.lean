import StackScript.Proofs.Run.Log
import StackScript.Session

/-!
# Where the modes part

The two modes settle four corners of the language differently, and whenever a run comes to such a
corner, one of them records a fault for it: the compatible mode for a name that is bound to a falsy
value, the hardened mode for a `begin` without a dictionary, an `end` without a scope and a loop
whose step is zero. `Fault.marks` lists these faults. A run that records none of them in either mode
goes the same way in both (`modes_agree_unless_marked`).

The proof follows two runs in lockstep (`Agree`). As long as they have gone the same way, the next
part of the one is that of the other or leaves a mark in one of the two, and since recorded faults
are never taken back (`StackScript.Proofs.Run.Log`) the mark would still be there at the end.
-/

namespace StackScript

/-- Whether a fault tells, when it is recorded in a mode, that the other mode would have gone
another way. -/
def Fault.marks : Mode → Fault → Bool
  | .compatible, .falsyBinding .. => true
  | .hardened, .noScope | .hardened, .zeroStep => true
  | .hardened, .tooFewOperands op .. | .hardened, .wrongKind op .. | .hardened, .outOfRange op ..
  | .hardened, .byZero op => decide (op = .primitive .beginScope)
  | _, _ => false

/-- Nothing that was recorded in a mode between two states tells the modes apart. -/
def State.Unmarked (mode : Mode) (before after : State) : Prop :=
  ∀ f ∈ before.newFaults after, f.marks mode = false

namespace State.Unmarked

variable {mode : Mode} {s t u : State}

/-- What is not marked as a whole is not marked in its first part. -/
theorem left (h : s.Unmarked mode u) (hst : s.Extends t) (htu : t.Extends u) :
    s.Unmarked mode t := by
  intro f hf
  apply h
  rw [newFaults_append hst htu]
  exact List.mem_append_left _ hf

/-- What is not marked as a whole is not marked in its second part. -/
theorem right (h : s.Unmarked mode u) (hst : s.Extends t) (htu : t.Extends u) :
    t.Unmarked mode u := by
  intro f hf
  apply h
  rw [newFaults_append hst htu]
  exact List.mem_append_right _ hf

/-- A fault that has just been recorded is no mark. -/
theorem marks_eq_false {f : Fault} (h : s.Unmarked mode (t.record f)) (hst : s.Extends t) :
    f.marks mode = false :=
  h f (mem_newFaults_record hst f)

end State.Unmarked

/-- Two outcomes of what is done in a state, one in the compatible mode and one in the hardened
mode: they are the same unless one of them is marked. -/
structure Agree (s : State) (first second : Outcome) : Prop where
  /-- the first adds to what is recorded -/
  extends_first : s.Extends first.state
  /-- the second adds to what is recorded -/
  extends_second : s.Extends second.state
  /-- without marks the outcomes are the same -/
  eq : s.Unmarked .compatible first.state → s.Unmarked .hardened second.state → first = second

namespace Agree

variable {s : State} {first second : Outcome}

/-- The same outcome in both modes. -/
theorem refl {o : Outcome} (h : s.Extends o.state) : Agree s o o :=
  ⟨h, h, fun _ _ => rfl⟩

/-- Of the state in which it is done only the recorded faults matter. -/
theorem of_faults {t : State} (h : Agree t first second) (hfaults : t.faults = s.faults) :
    Agree s first second := by
  obtain ⟨hfirst, hsecond, heq⟩ := h
  simp only [State.Extends, State.Unmarked, State.newFaults, hfaults] at hfirst hsecond heq
  exact ⟨hfirst, hsecond, heq⟩

/-- If outcomes agree and what follows agrees, then so do both together. -/
theorem andThen (h : Agree s first second) {next next' : State → Outcome}
    (hnext : ∀ t, Agree t (next t) (next' t)) :
    Agree s (first.andThen next) (second.andThen next') := by
  have hfirst := Outcome.extends_andThen (o := first) fun t => (hnext t).extends_first
  have hsecond := Outcome.extends_andThen (o := second) fun t => (hnext t).extends_second
  refine ⟨h.extends_first.trans hfirst, h.extends_second.trans hsecond, fun hc hh => ?_⟩
  obtain rfl := h.eq (hc.left h.extends_first hfirst) (hh.left h.extends_second hsecond)
  have hc := hc.right h.extends_first hfirst
  have hh := hh.right h.extends_second hsecond
  cases first with
  | done t => exact (hnext t).eq hc hh
  | raised f t => rfl

/-- If outcomes agree, then so do they once they are settled: what is fatal in one mode only is
marked in the other. -/
theorem settle (h : Agree s first second) :
    Agree s (first.settle .compatible) (second.settle .hardened) := by
  have hfirst := first.extends_settle .compatible
  have hsecond := second.extends_settle .hardened
  refine ⟨h.extends_first.trans hfirst, h.extends_second.trans hsecond, fun hc hh => ?_⟩
  obtain rfl := h.eq (hc.left h.extends_first hfirst) (hh.left h.extends_second hsecond)
  cases first with
  | done t => rfl
  | raised f t =>
    cases f with
    | noScope => cases hh.marks_eq_false h.extends_second
    | zeroStep => cases hh.marks_eq_false h.extends_second
    | _ => rfl

/-- What agrees in a body agrees outside of it. -/
theorem nested (h : Agree s.deeper first second) :
    Agree s (first.mapState State.shallower) (second.mapState State.shallower) := by
  obtain ⟨hfirst, hsecond, heq⟩ := h
  refine ⟨?_, ?_, fun hc hh => ?_⟩
  · cases first <;> exact hfirst
  · cases second <;> exact hsecond
  · rw [heq (by cases first <;> exact hc) (by cases second <;> exact hh)]

/-- The same is done in both modes, without recording anything. -/
theorem settle_refl {o : Outcome} (h : s.Extends o.state) :
    Agree s (o.settle .compatible) (o.settle .hardened) :=
  (refl h).settle

/-- A fault that the compatible mode recovers from and that is a mark there agrees with anything,
once it is settled. -/
theorem of_mark_first {f : Fault} (hf : f.marks .compatible = true)
    (hfatal : Mode.isFatal .compatible f = false) (h : s.Extends second.state) :
    Agree s ((Outcome.raised f s).settle .compatible) second := by
  rw [Outcome.settle, hfatal, if_neg Bool.false_ne_true]
  refine ⟨s.extends_record f, h, fun hc _ => ?_⟩
  rw [hc.marks_eq_false List.prefix_rfl] at hf
  cases hf

/-- A fault that the hardened mode recovers from and that is a mark there agrees with anything, once
it is settled. -/
theorem of_mark_second {f : Fault} (hf : f.marks .hardened = true)
    (hfatal : Mode.isFatal .hardened f = false) (h : s.Extends first.state) :
    Agree s first ((Outcome.raised f s).settle .hardened) := by
  rw [Outcome.settle, hfatal, if_neg Bool.false_ne_true]
  refine ⟨h, s.extends_record f, fun _ hh => ?_⟩
  rw [hh.marks_eq_false List.prefix_rfl] at hf
  cases hf

end Agree

/-! ## Primitives -/

/-- Only `begin` looks at the mode. -/
theorem Primitive.apply_mode {p : Primitive} (hp : p ≠ .beginScope) (mode mode' : Mode)
    (m : Machine) : p.apply mode m = p.apply mode' m := by
  cases p with
  | beginScope => exact absurd rfl hp
  | _ => rfl

/-- `begin` without a dictionary is passed over in one mode and is a mark in the other. -/
theorem agree_beginScope {inner inner' : Entry} (s : State) :
    Agree s ((invoke .compatible inner (.primitive .beginScope) s).settle .compatible)
      ((invoke .hardened inner' (.primitive .beginScope) s).settle .hardened) := by
  rw [invoke_primitive, invoke_primitive]
  simp only [Primitive.apply, Machine.beginScope, Mode.checksBegin]
  rcases s.machine.operands with _ | ⟨v, rest⟩
  · exact .of_mark_second rfl rfl List.prefix_rfl
  cases v with
  | dict r => exact .refl List.prefix_rfl
  | _ => exact .of_mark_second rfl rfl List.prefix_rfl

/-! ## Bodies -/

/-- Two ways of running bodies that agree on every body, in every state. -/
def AgreeOnBodies (first second : Entry) : Prop :=
  ∀ body s, Agree s (first body s) (second body s)

namespace AgreeOnBodies

variable {first second : Entry}

theorem runCounting (h : AgreeOnBodies first second) (body : List Value) (step : Int) (count : Nat)
    (current : Int) (s : State) :
    Agree s (runCounting first body step count current s)
      (runCounting second body step count current s) := by
  induction count generalizing current s with
  | zero => exact .refl List.prefix_rfl
  | succ count ih =>
    rw [runCounting_succ, runCounting_succ]
    exact ((h body (s.push _)).andThen fun t => ih _ t).of_faults rfl

theorem runEach (h : AgreeOnBodies first second) (body values : List Value) (s : State) :
    Agree s (runEach first body values s) (runEach second body values s) := by
  induction values generalizing s with
  | nil => exact .refl List.prefix_rfl
  | cons v rest ih =>
    rw [runEach_cons, runEach_cons]
    exact ((h body (s.push v)).andThen ih).of_faults rfl

theorem runPasses (h : AgreeOnBodies first second) (passes : Passes) (s : State) :
    Agree s (runPasses first passes s) (runPasses second passes s) := by
  cases passes with
  | none => exact .refl List.prefix_rfl
  | once body => exact h body s
  | counting body start step limit =>
    rw [runPasses_counting, runPasses_counting]
    exact h.runCounting body _ _ _ s
  | each body values => exact h.runEach body values s

/-- An operator, settled. -/
theorem invoke (h : AgreeOnBodies first second) (op : Operator) (s : State) :
    Agree s ((invoke .compatible first op s).settle .compatible)
      ((invoke .hardened second op s).settle .hardened) := by
  cases op with
  | primitive p =>
    by_cases hp : p = .beginScope
    · subst hp
      exact agree_beginScope s
    · rw [invoke_primitive, invoke_primitive, Primitive.apply_mode hp .compatible .hardened]
      rcases p.apply .hardened s.machine with f | m
      · exact .settle_refl (o := .raised f s) List.prefix_rfl
      · exact .settle_refl (o := .done { s with machine := m }) List.prefix_rfl
  | control c =>
    rw [invoke_control, invoke_control]
    rcases c.prepare s.machine with f | ⟨passes, m⟩
    · exact .settle_refl (o := .raised f s) List.prefix_rfl
    · exact (h.runPasses passes { s with machine := m }).settle.of_faults rfl

/-- A bare name, settled: one that is bound to a falsy value is a mark in the compatible mode. -/
theorem callName (h : AgreeOnBodies first second) (n : Name) (s : State) :
    Agree s ((callName .compatible first n s).settle .compatible)
      ((callName .hardened second n s).settle .hardened) := by
  simp only [StackScript.callName, Mode.skipsFalsyBindings, Bool.true_and, Bool.false_and,
    if_neg Bool.false_ne_true]
  rcases s.machine.scopes.lookup? s.machine.store n.text with _ | v
  · exact .settle_refl (o := .raised (.notFound n.text) s) List.prefix_rfl
  dsimp only
  rcases v.isFalsy s.machine.store with _ | _
  · cases v with
    | proc body => exact (h body s).settle
    | _ => exact .refl List.prefix_rfl
  · -- the compatible mode does not take the binding for one, whatever the hardened mode makes of it
    refine .of_mark_first rfl rfl ?_
    cases v with
    | proc body => exact (h body s).settle.extends_second
    | _ => exact List.prefix_rfl

/-- One element, settled. -/
theorem step (h : AgreeOnBodies first second) (item : Value) (s : State) :
    Agree s ((step .compatible first item s).settle .compatible)
      ((step .hardened second item s).settle .hardened) := by
  cases item with
  | operator op => exact h.invoke op s
  | call n => exact h.callName n s
  | unknown n => exact .settle_refl (o := .raised (.unknownSymbol n.text) s) List.prefix_rfl
  | _ => exact .refl List.prefix_rfl

/-- A list of elements. -/
theorem executeWith (h : AgreeOnBodies first second) (items : List Value) (s : State) :
    Agree s (executeWith .compatible first items s) (executeWith .hardened second items s) := by
  induction items generalizing s with
  | nil => exact .refl List.prefix_rfl
  | cons item rest ih =>
    rw [executeWith_cons, executeWith_cons]
    exact (h.step item s).andThen ih

end AgreeOnBodies

/-- Whole bodies, under the same limit and with the same budget. -/
theorem agreeOnBodies_enter (limit budget : Nat) :
    AgreeOnBodies (enter ⟨.compatible, limit⟩ budget) (enter ⟨.hardened, limit⟩ budget) := by
  induction budget with
  | zero => exact fun body s => .refl List.prefix_rfl
  | succ budget ih =>
    intro body s
    rw [enter, enter]
    exact (ih.executeWith body s.deeper).nested

/-- Executing a list of elements, under the same limit. -/
theorem agree_execute (limit : Nat) (items : List Value) (s : State) :
    Agree s (execute ⟨.compatible, limit⟩ items s) (execute ⟨.hardened, limit⟩ items s) :=
  (agreeOnBodies_enter limit _).executeWith items s

/-! ## Sessions -/

namespace Session

/-- Two sessions that are the same except for the mode. -/
structure DifferInMode (first second : Session) : Prop where
  /-- the first is in the compatible mode -/
  compatible : first.policy.mode = .compatible
  /-- the second is in the hardened mode -/
  hardened : second.policy.mode = .hardened
  /-- both are held to the same limit on nesting -/
  limit : second.policy.maxDepth = first.policy.maxDepth
  /-- both have come to the same state -/
  state : second.state = first.state

/-- Two ends of the same run in two sessions: neither the first, in the compatible mode, nor the
second, in the hardened mode, has recorded a fault that tells the modes apart. -/
structure Unmarked {α : Type} (first second : Session) (end₁ end₂ : Option α × Session) : Prop where
  /-- no name was passed over for being bound to a falsy value -/
  first : first.state.Unmarked .compatible end₁.2.state
  /-- no `begin` was without a dictionary, no `end` without a scope and no loop without a step -/
  second : second.state.Unmarked .hardened end₂.2.state

namespace DifferInMode

variable {first second : Session}

/-- The sessions, taken apart. -/
theorem exists_eq (h : DifferInMode first second) :
    ∃ limit s, first = ⟨⟨.compatible, limit⟩, s⟩ ∧ second = ⟨⟨.hardened, limit⟩, s⟩ := by
  obtain ⟨⟨mode, limit⟩, s⟩ := first
  obtain ⟨⟨mode', limit'⟩, s'⟩ := second
  obtain ⟨rfl, rfl, rfl, rfl⟩ := h
  exact ⟨limit', s', rfl, rfl⟩

theorem execute (h : DifferInMode first second) {items : List Value}
    (hmarks : Unmarked first second (first.execute items) (second.execute items)) :
    (second.execute items).1 = (first.execute items).1 ∧
      (second.execute items).2.state = (first.execute items).2.state := by
  obtain ⟨limit, s, rfl, rfl⟩ := h.exists_eq
  have heq := (agree_execute limit items s).eq hmarks.first hmarks.second
  simp only [Session.execute, ofOutcome, heq, and_self]

/-- A program is loaded into both stores in the same way, which records nothing. -/
theorem run (h : DifferInMode first second) {source : String}
    (hmarks : Unmarked first second (first.run source) (second.run source)) :
    (second.run source).1 = (first.run source).1 ∧
      (second.run source).2.state = (first.run source).2.state := by
  obtain ⟨limit, s, rfl, rfl⟩ := h.exists_eq
  rcases hparse : Program.parse source with e | program
  · rw [run_of_parse_error hparse, run_of_parse_error hparse]
    exact ⟨rfl, rfl⟩
  obtain ⟨hfirst, hsecond⟩ := hmarks
  rw [run_of_parse hparse] at hfirst hsecond
  rw [run_of_parse hparse, run_of_parse hparse]
  -- loading is the same in both sessions, since it looks at the store only
  have hagree := agree_execute limit (program.load s.machine.store).1
    { s with machine := { s.machine with store := (program.load s.machine.store).2 } }
  dsimp only [withStore, mapMachine, store] at hfirst hsecond hagree ⊢
  generalize StackScript.execute ⟨.compatible, limit⟩ _ _ = o at hfirst hagree ⊢
  generalize StackScript.execute ⟨.hardened, limit⟩ _ _ = o' at hsecond hagree ⊢
  obtain rfl : o = o' := hagree.eq (by cases o <;> exact hfirst) (by cases o' <;> exact hsecond)
  cases o <;> exact ⟨rfl, rfl⟩

end DifferInMode

/-- **The modes differ only where they leave a mark.** Let two sessions be the same except for the
mode. Whatever is run in both, be it a list of elements or a program: if the compatible run newly
records no name bound to a falsy value, and the hardened run newly records no `end` without a scope,
no loop with a step of zero and no fault of `begin`, then both come to the same result and to the
same state, with the same stacks, the same store, the same sink and the same recorded faults. -/
theorem modes_agree_unless_marked (first second : Session) (h : DifferInMode first second) :
    (∀ items, Unmarked first second (first.execute items) (second.execute items) →
      (second.execute items).1 = (first.execute items).1 ∧
        (second.execute items).2.state = (first.execute items).2.state) ∧
    (∀ source, Unmarked first second (first.run source) (second.run source) →
      (second.run source).1 = (first.run source).1 ∧
        (second.run source).2.state = (first.run source).2.state) :=
  ⟨fun _ => h.execute, fun _ => h.run⟩

/-- In each of three passes a loop enters and leaves a dictionary and then finds nothing to add.
Three faults are recorded in either mode, and none of them is a mark. -/
theorem modes_agree_unless_marked_of_loop :
    let operator (p : Primitive) : Value := .operator (.primitive p)
    let body : List Value :=
      [operator .dict, operator .beginScope, operator .endScope, operator .add]
    let items : List Value := [.number (.int 1), .number (.int 1), .number (.int 3), .proc body,
      .operator (.control .forLoop)]
    let first : Session := .fresh ⟨.compatible, 5⟩ .silent
    let second : Session := .fresh ⟨.hardened, 5⟩ .silent
    DifferInMode first second ∧
      Unmarked first second (first.execute items) (second.execute items) ∧
      (first.execute items).2.state.faults.size = 3 ∧
      (second.execute items).2.state = (first.execute items).2.state := by
  intro operator body items first second
  have halike : DifferInMode first second := ⟨rfl, rfl, rfl, rfl⟩
  have hmarks : Unmarked first second (first.execute items) (second.execute items) := by
    have hfirst : first.state.newFaults (first.execute items).2.state =
        List.replicate 3 (.tooFewOperands (.primitive .add) 2 0) := rfl
    have hsecond : second.state.newFaults (second.execute items).2.state =
        List.replicate 3 (.tooFewOperands (.primitive .add) 2 0) := rfl
    refine ⟨fun f hf => ?_, fun f hf => ?_⟩
    · rw [hfirst] at hf
      rw [List.eq_of_mem_replicate hf]
      rfl
    · rw [hsecond] at hf
      rw [List.eq_of_mem_replicate hf]
      rfl
  exact ⟨halike, hmarks, rfl, ((modes_agree_unless_marked first second halike).1 items hmarks).2⟩

end Session

end StackScript
