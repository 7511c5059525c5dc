import StackScript.Proofs.Session.Action
import StackScript.Proofs.Value.Reachable

/-!
# Only data is held

Operators, bare names and unknown symbols are there to be executed. They are elements of procedure
bodies and of what a host executes, and as long as a host supplies nothing else they are nowhere
else: not among the operands, and in no array or dictionary that can be reached from the operands or
the scopes, at any point of any use of a session (`holds_only_data`). Also, only names that may be
defined are ever bound.

What a run works on is more than what can be reached from the machine: there are the bodies under
way, and the values that a loop has still before it. So the invariant of runs
(`Configuration.Sound`) is about a set of places that all of these refer to. Allocation makes this
set larger (`Machine.Sound.effect`), and nothing else has to change it.
-/

namespace StackScript

variable {G H : Set Cell}

/-! ## Machines -/

/-- All that a machine works on is data and refers to places of a sound set. -/
structure Machine.Sound (m : Machine) (G : Set Cell) : Prop where
  /-- the set is sound -/
  store : m.store.Sound G
  /-- operands are data that refers to it -/
  operands : ∀ v ∈ m.operands, v.isData = true ∧ v.Within G
  /-- the frames belong to it -/
  frames : ∀ frame ∈ m.scopes.frames, Cell.dict frame ∈ G

namespace Machine.Sound

variable {m after : Machine} {v : Value}

/-- What an operator can leave on the stack is data. -/
theorem offers (h : m.Sound G) (hv : m.Offers v) : v.isData = true ∧ v.Within G := by
  cases hv with
  | number n => exact ⟨rfl, .number n⟩
  | bool b => exact ⟨rfl, .bool b⟩
  | operand hv => exact h.operands v hv
  | element hr hv => exact h.store.array _ ((h.operands _ hr).2 _ (.array _)) v hv

/-- What a name is bound to is data. -/
theorem lookup {bare : String} (h : m.Sound G)
    (hlookup : m.scopes.lookup? m.store bare = some v) : v.isData = true ∧ v.Within G := by
  obtain ⟨frame, hframe, hv⟩ := List.exists_of_findSome?_eq_some hlookup
  exact (h.store.dict frame (h.frames frame hframe) _ v hv).2

/-- Other operands may be taken, if they are data. -/
theorem withOperands (h : m.Sound G) {operands : Operands} (sink : Sink)
    (hoperands : ∀ v ∈ operands, v.isData = true ∧ v.Within G) :
    Machine.Sound { m with operands := operands, sink := sink } G :=
  ⟨h.store, hoperands, h.frames⟩

/-- The set may be larger, if it is sound. -/
theorem union (h : m.Sound G) (hH : m.store.Sound H) : m.Sound (G ∪ H) where
  store := h.store.union hH
  operands v hv := (h.operands v hv).imp id fun h => h.mono Set.subset_union_left
  frames frame hframe := .inl (h.frames frame hframe)

/-- Data is pushed. -/
theorem push (h : m.Sound G) (hv : v.isData = true ∧ v.Within G) : (m.push v).Sound G :=
  h.withOperands m.sink (List.forall_mem_cons.mpr ⟨hv, h.operands⟩)

/-- Data is bound. -/
theorem define (h : m.Sound G) {name : Name} {scopes : Scopes} {store : Store}
    (hv : v.isData = true ∧ v.Within G)
    (hdefine : m.scopes.define m.store name v = .ok (scopes, store)) :
    ∃ H, G ⊆ H ∧ Machine.Sound { m with scopes := scopes, store := store } H := by
  obtain ⟨hname, ⟨-, rfl, rfl⟩ | ⟨frame, outer, -, rfl, rfl⟩⟩ := Scopes.define_eq_ok hdefine
  · -- there was no frame, and the new one binds this name only
    have hsub := Set.subset_insert
      (Cell.dict (m.store.allocDict (Dictionary.empty.insert name v)).1) G
    refine ⟨_, hsub, h.store.allocDict fun n w hw => ?_, fun w hw => ?_, ?_⟩
    · rw [Dictionary.get?_insert] at hw
      split at hw
      · next heq =>
        cases hw
        exact ⟨heq ▸ hname, hv⟩
      · cases hw
    · exact (h.operands w hw).imp id fun h => h.mono hsub
    · exact List.forall_mem_cons.mpr ⟨Set.mem_insert _ _, fun frame hframe =>
        hsub (h.frames frame hframe)⟩
  · exact ⟨G, subset_rfl, h.store.bind frame hname hv.1 hv.2, h.operands, h.frames⟩

/-- **Primitives leave data**, and what they allocate joins the set. -/
theorem effect (h : m.Sound G) (heffect : Primitive.Effect m after) :
    ∃ H, G ⊆ H ∧ after.Sound H := by
  cases heffect with
  | operands sink hoffers =>
    exact ⟨G, subset_rfl, h.withOperands sink fun v hv => h.offers (hoffers v hv)⟩
  | put hops hi =>
    have hdata := h.operands
    rw [hops, List.forall_mem_cons, List.forall_mem_cons] at hdata
    obtain ⟨hv, -, hrest⟩ := hdata
    exact ⟨G, subset_rfl, h.store.put _ _ hv.1 hv.2, hrest, h.frames⟩
  | dict hops =>
    have hsub := Set.subset_insert (Cell.dict (m.store.allocDict .empty).1) G
    have hdata := h.operands
    rw [hops, List.forall_mem_cons] at hdata
    refine ⟨_, hsub, h.store.allocDict (by simp), ?_, fun frame hframe =>
      hsub (h.frames frame hframe)⟩
    exact List.forall_mem_cons.mpr ⟨⟨rfl, .dict (Set.mem_insert _ _)⟩, fun v hv =>
      (hdata.2 v hv).imp id fun h => h.mono hsub⟩
  | beginScope hops =>
    have hdata := h.operands
    rw [hops, List.forall_mem_cons] at hdata
    obtain ⟨hr, hrest⟩ := hdata
    exact ⟨G, subset_rfl, h.store, hrest, List.forall_mem_cons.mpr ⟨hr.2 _ (.dict _), h.frames⟩⟩
  | endScope hpop =>
    obtain ⟨hframes, -, -⟩ := Scopes.pop?_eq_some_iff.mp hpop
    have hrest := h.frames
    rw [hframes, List.forall_mem_cons] at hrest
    exact ⟨G, subset_rfl, h.store, h.operands, hrest.2⟩
  | define hops hdefine =>
    have hdata := h.operands
    rw [hops, List.forall_mem_cons, List.forall_mem_cons] at hdata
    obtain ⟨hv, -, hrest⟩ := hdata
    obtain ⟨H, hsub, hsound⟩ := h.define hv hdefine
    exact ⟨H, hsub, hsound.store, fun v hv => (hrest v hv).imp id fun h => h.mono hsub,
      hsound.frames⟩

end Machine.Sound

/-! ## Runs -/

/-- What is still to be done refers to places of a set, and what a loop will push is data. -/
def Task.Within (G : Set Cell) : Task → Prop
  | .elements items => ∀ v ∈ items, v.Within G
  | .leave => True
  | .count body _ _ _ | .counted body _ _ _ => ∀ v ∈ body, v.Within G
  | .each body values =>
    (∀ v ∈ body, v.Within G) ∧ ∀ v ∈ values, v.isData = true ∧ v.Within G

theorem Task.Within.mono {task : Task} (h : task.Within G) (hsub : G ⊆ H) : task.Within H := by
  cases task with
  | elements items => exact fun v hv => (h v hv).mono hsub
  | leave => trivial
  | count body => exact fun v hv => (h v hv).mono hsub
  | counted body => exact fun v hv => (h v hv).mono hsub
  | each body values =>
    exact ⟨fun v hv => (h.1 v hv).mono hsub, fun v hv => (h.2 v hv).imp id fun h => h.mono hsub⟩

/-- What a run has still to do. -/
def Configuration.tasks : Configuration → List Task
  | .running tasks _ => tasks
  | .raising _ tasks _ => tasks
  | .finished _ => []

/-- All that a run works on and all that is under way refers to places of a sound set. -/
structure Configuration.Sound (c : Configuration) (G : Set Cell) : Prop where
  /-- the machine does -/
  machine : c.state.machine.Sound G
  /-- the tasks do -/
  tasks : ∀ task ∈ c.tasks, task.Within G

section Runs

variable {policy : Policy} {tasks : List Task} {s : State}

/-- A body can be opened. -/
theorem sound_openBody (h : s.machine.Sound G) (htasks : ∀ task ∈ tasks, task.Within G)
    {body : List Value} (hbody : ∀ v ∈ body, v.Within G) :
    (openBody policy body tasks s).Sound G := by
  rw [openBody]
  split
  · exact ⟨h, htasks⟩
  · exact ⟨h, List.forall_mem_cons.mpr ⟨hbody, List.forall_mem_cons.mpr ⟨trivial, htasks⟩⟩⟩

/-- A control operator finds its bodies, and the values of a loop, among the operands. -/
theorem sound_beginPasses (h : s.machine.Sound G) (htasks : ∀ task ∈ tasks, task.Within G)
    {c : Control} {passes : Passes} {rest : Operands}
    (heffect : Control.Effect s.machine c passes rest) :
    (beginPasses policy passes tasks
      { s with machine := { s.machine with operands := rest } }).Sound G := by
  have hdata := h.operands
  cases heffect with
  | @ifTrue b body _ hops =>
    rw [hops, List.forall_mem_cons, List.forall_mem_cons] at hdata
    obtain ⟨hbody, -, hrest⟩ := hdata
    have hm := h.withOperands s.machine.sink hrest
    cases b with
    | false => exact ⟨hm, htasks⟩
    | true => exact sound_openBody hm htasks (Value.Within.proc_iff.mp hbody.2)
  | @ifElse b body otherwise _ hops =>
    rw [hops, List.forall_mem_cons, List.forall_mem_cons, List.forall_mem_cons] at hdata
    obtain ⟨hother, hbody, -, hrest⟩ := hdata
    have hm := h.withOperands s.machine.sink hrest
    cases b with
    | false => exact sound_openBody hm htasks (Value.Within.proc_iff.mp hother.2)
    | true => exact sound_openBody hm htasks (Value.Within.proc_iff.mp hbody.2)
  | forLoop hops _ =>
    rw [hops] at hdata
    simp only [List.forall_mem_cons] at hdata
    obtain ⟨hbody, -, -, -, hrest⟩ := hdata
    exact ⟨h.withOperands s.machine.sink hrest,
      List.forall_mem_cons.mpr ⟨Value.Within.proc_iff.mp hbody.2, htasks⟩⟩
  | @forAll r body _ hops _ =>
    rw [hops, List.forall_mem_cons, List.forall_mem_cons] at hdata
    obtain ⟨hbody, hr, hrest⟩ := hdata
    have helements := h.store.array r (hr.2 _ (.array r))
    exact ⟨h.withOperands s.machine.sink hrest, List.forall_mem_cons.mpr
      ⟨⟨Value.Within.proc_iff.mp hbody.2, fun v hv => helements v (Array.mem_toList_iff.mp hv)⟩,
        htasks⟩⟩

/-- An element is executed: data is pushed, and everything else acts on data. -/
theorem sound_beginElement (policy : Policy) (h : s.machine.Sound G)
    (htasks : ∀ task ∈ tasks, task.Within G) {item : Value} (hitem : item.Within G) :
    ∃ H, G ⊆ H ∧ (beginElement policy item tasks s).Sound H := by
  have hsame (f : Fault) : Configuration.Sound (.raising f tasks s) G := ⟨h, htasks⟩
  have hpush {v : Value} (hv : v.isData = true ∧ v.Within G) :
      Configuration.Sound (.running tasks (s.push v)) G := ⟨h.push hv, htasks⟩
  cases item with
  | operator op =>
    cases op with
    | primitive p =>
      rw [beginElement, perform_primitive]
      rcases hp : p.apply policy.mode s.machine with f | m
      · exact ⟨G, subset_rfl, hsame f⟩
      · obtain ⟨H, hsub, hm⟩ := h.effect (Primitive.effect_of_apply hp)
        exact ⟨H, hsub, hm, fun task htask => (htasks task htask).mono hsub⟩
    | control c =>
      rw [beginElement, perform_control]
      rcases hc : c.prepare s.machine with f | ⟨passes, m⟩
      · exact ⟨G, subset_rfl, hsame f⟩
      · obtain ⟨rest, heffect, rfl⟩ := Control.effect_of_prepare hc
        exact ⟨G, subset_rfl, sound_beginPasses h htasks heffect⟩
  | call n =>
    refine ⟨G, subset_rfl, ?_⟩
    rw [beginElement]
    rcases hlookup : s.machine.scopes.lookup? s.machine.store n.text with _ | v
    · exact hsame _
    dsimp only
    split
    · exact hsame _
    · split
      · next body => exact sound_openBody h htasks (Value.Within.proc_iff.mp (h.lookup hlookup).2)
      · exact hpush (h.lookup hlookup)
  | unknown n => exact ⟨G, subset_rfl, hsame _⟩
  | _ => exact ⟨G, subset_rfl, hpush ⟨rfl, hitem⟩⟩

/-- **A step of a run** works on data and leaves data. -/
theorem Configuration.Sound.advance (policy : Policy) {c : Configuration} (h : c.Sound G) :
    ∃ H, G ⊆ H ∧ (advance policy c).Sound H := by
  obtain ⟨hm, htasks⟩ := h
  cases c with
  | finished outcome => exact ⟨G, subset_rfl, hm, htasks⟩
  | raising f tasks s =>
    refine ⟨G, subset_rfl, ?_⟩
    cases tasks with
    | nil => exact ⟨hm, htasks⟩
    | cons task tasks =>
      have hrest := (List.forall_mem_cons.mp htasks).2
      cases task with
      | elements rest =>
        rw [StackScript.advance]
        split
        · exact ⟨hm, hrest⟩
        · exact ⟨hm, htasks⟩
      | _ => exact ⟨hm, hrest⟩
  | running tasks s =>
    cases tasks with
    | nil => exact ⟨G, subset_rfl, hm, htasks⟩
    | cons task tasks =>
      obtain ⟨htask, hrest⟩ := List.forall_mem_cons.mp htasks
      cases task with
      | elements items =>
        cases items with
        | nil => exact ⟨G, subset_rfl, hm, hrest⟩
        | cons item items =>
          obtain ⟨hitem, hitems⟩ := List.forall_mem_cons.mp htask
          have hlater : Task.Within G (.elements items) := hitems
          exact sound_beginElement policy hm (List.forall_mem_cons.mpr ⟨hlater, hrest⟩) hitem
      | leave => exact ⟨G, subset_rfl, hm, hrest⟩
      | count body current step limit =>
        have hlater : Task.Within G (.counted body current step limit) := htask
        have hpushed : (s.push (.number (.int current))).machine.Sound G :=
          hm.push ⟨rfl, .number _⟩
        refine ⟨G, subset_rfl, ?_⟩
        rw [StackScript.advance]
        split
        · exact sound_openBody hpushed (List.forall_mem_cons.mpr ⟨hlater, hrest⟩) htask
        · exact ⟨hm, hrest⟩
      | counted body current step limit =>
        refine ⟨G, subset_rfl, ?_⟩
        rw [StackScript.advance]
        split
        · exact ⟨hm, List.forall_mem_cons.mpr ⟨htask, hrest⟩⟩
        · exact ⟨hm, hrest⟩
      | each body values =>
        refine ⟨G, subset_rfl, ?_⟩
        cases values with
        | nil => exact ⟨hm, hrest⟩
        | cons v values =>
          obtain ⟨hbody, hvalues⟩ := htask
          obtain ⟨hv, hvalues⟩ := List.forall_mem_cons.mp hvalues
          have hlater : Task.Within G (.each body values) := ⟨hbody, hvalues⟩
          have hpushed : (s.push v).machine.Sound G := hm.push hv
          exact sound_openBody hpushed (List.forall_mem_cons.mpr ⟨hlater, hrest⟩) hbody

/-- A run works on data at every point. -/
theorem Configuration.Sound.iterate (policy : Policy) {c : Configuration} (h : c.Sound G)
    (n : Nat) :
    ∃ H, ((StackScript.advance policy)^[n] c).Sound H :=
  Function.Iterate.rec (fun c : Configuration => ∃ H, c.Sound H) ⟨G, h⟩
    (fun _ ⟨_, h⟩ => (h.advance policy).imp fun _ => And.right) n

end Runs

namespace Session

variable {s t : Session} {a : Action}

/-! ## Sessions -/

/-- The operands, and the frames as values. -/
def roots (s : Session) : Set Value :=
  {v | v ∈ s.operands ∨ ∃ frame ∈ s.scopes.frames, v = .dict frame}

/-- The operands are data, and so is everything at the places that can be reached from operands and
frames, where also only names are bound that may be defined. -/
structure HoldsOnlyData (s : Session) : Prop where
  /-- operands are data -/
  operands : ∀ v ∈ s.operands, v.isData = true
  /-- places that can be reached hold data -/
  places : ∀ v ∈ s.roots, s.store.IsClean v

/-- All that is held refers to what can be reached, which is a sound set. -/
theorem HoldsOnlyData.sound (h : s.HoldsOnlyData) :
    s.state.machine.Sound (s.store.reach s.roots) where
  store := Store.sound_reach h.places
  operands v hv := ⟨h.operands v hv, Store.within_reach (.inl hv)⟩
  frames frame hframe := Store.within_reach (.inr ⟨frame, hframe, rfl⟩) _ (.dict frame)

/-- It refers to a sound set together with further values from which only data can be reached. -/
theorem HoldsOnlyData.exists_sound (h : s.HoldsOnlyData) (values : List Value)
    (hvalues : ∀ v ∈ values, s.store.IsClean v) :
    ∃ G, s.state.machine.Sound G ∧ ∀ v ∈ values, v.Within G := by
  have hreach : s.store.Sound (s.store.reach {v | v ∈ values}) := Store.sound_reach hvalues
  exact ⟨_, h.sound.union hreach, fun v hv =>
    (Store.within_reach hv).mono Set.subset_union_right⟩

/-- What refers to a sound set holds only data. -/
theorem holdsOnlyData_of_sound {G : Set Cell} (h : s.state.machine.Sound G) : s.HoldsOnlyData where
  operands v hv := (h.operands v hv).1
  places := by
    rintro v (hv | ⟨frame, hframe, rfl⟩)
    · exact h.store.isClean (h.operands v hv).2
    · exact h.store.isClean (.dict (h.frames frame hframe))

/-- At the beginning there is nothing. -/
theorem holdsOnlyData_fresh (policy : Policy) (sink : Sink) :
    (fresh policy sink).HoldsOnlyData where
  operands := List.forall_mem_nil _
  places := by
    rintro v (hv | ⟨frame, hframe, -⟩)
    · cases hv
    · cases hframe

/-! ## Actions -/

mutual

/-- A host supplies only data by an action: what it pushes or binds is data, only data can be
reached from this, from a frame, and from the elements it executes, and when it builds values it
leaves alone what the session holds already. -/
def Action.SuppliesData (s : Session) : Action → Prop
  | .execute items => ∀ v ∈ items, s.store.IsClean v
  | .push v | .define _ v => v.isData = true ∧ s.store.IsClean v
  | .arrange f => ∀ c ∈ s.store.reach s.roots, s.store.AgreesAt (f s.store) c
  | .scope frame inner => s.store.IsClean (.dict frame) ∧ SupplyData (s.openScope frame).2 inner
  | _ => True

/-- A host supplies only data by one action after another. -/
def Action.SupplyData (s : Session) : List Action → Prop
  | [] => True
  | a :: rest => a.SuppliesData s ∧ SupplyData (s.perform a) rest

end

/-- A run starts with data. -/
theorem HoldsOnlyData.sound_start (h : s.HoldsOnlyData) (ha : a.SuppliesData s)
    {c : Configuration} (hstart : a.start? s = some c) : ∃ G, c.Sound G := by
  cases a with
  | execute items =>
    obtain rfl := Option.some.inj hstart
    obtain ⟨G, hm, hitems⟩ := h.exists_sound items ha
    exact ⟨G, hm, List.forall_mem_singleton.mpr hitems⟩
  | call op =>
    obtain rfl := Option.some.inj hstart
    have hop : (Value.operator op).Within (s.store.reach s.roots) := by rintro c ⟨⟩
    obtain ⟨H, -, hc⟩ := sound_beginElement s.policy h.sound (List.forall_mem_nil _) hop
    exact ⟨H, hc⟩
  | run source =>
    have hm := h.sound
    rw [Action.start?] at hstart
    rcases hparse : Program.parse source with e | program <;> rw [hparse] at hstart
    · cases hstart
    · obtain rfl := Option.some.inj hstart
      obtain ⟨H, hsub, hstore, hitems⟩ := Term.sound_loadAll hm.store program.items
      refine ⟨H, ⟨hstore, fun v hv => (hm.operands v hv).imp id fun h => h.mono hsub,
        fun frame hframe => hsub (hm.frames frame hframe)⟩, ?_⟩
      exact List.forall_mem_singleton.mpr hitems
  | _ => cases hstart

/-- A run holds only data at every point. -/
theorem HoldsOnlyData.during (h : s.HoldsOnlyData) (ha : a.SuppliesData s) {c : Configuration}
    (hstart : a.start? s = some c) (n : Nat) :
    HoldsOnlyData ⟨s.policy, ((advance s.policy)^[n] c).state⟩ := by
  obtain ⟨G, hc⟩ := h.sound_start ha hstart
  obtain ⟨H, hn⟩ := hc.iterate s.policy n
  exact holdsOnlyData_of_sound hn.machine

/-- After a run only data is held. -/
theorem HoldsOnlyData.perform_of_start? (h : s.HoldsOnlyData) (ha : a.SuppliesData s)
    {c : Configuration} (hstart : a.start? s = some c) : (s.perform a).HoldsOnlyData := by
  obtain ⟨n, hn⟩ := exists_machine_perform hstart
  obtain ⟨G, hc⟩ := h.sound_start ha hstart
  obtain ⟨H, hsound⟩ := hc.iterate s.policy n
  exact holdsOnlyData_of_sound (hn ▸ hsound.machine)

/-- In a scope that is opened only data is held, if only data can be reached from its frame. -/
theorem HoldsOnlyData.openScope (h : s.HoldsOnlyData) {frame : DictRef}
    (hframe : s.store.IsClean (.dict frame)) : (s.openScope frame).2.HoldsOnlyData := by
  obtain ⟨G, hm, hvalues⟩ := h.exists_sound [.dict frame] (List.forall_mem_singleton.mpr hframe)
  have hmem := List.forall_mem_singleton.mp hvalues _ (.dict frame)
  exact holdsOnlyData_of_sound (s := (s.openScope frame).2)
    ⟨hm.store, hm.operands, List.forall_mem_cons.mpr ⟨hmem, hm.frames⟩⟩

/-- After a scope is closed only data is held. -/
theorem HoldsOnlyData.closeScope (h : s.HoldsOnlyData) (guard : Guard) :
    (s.closeScope guard).HoldsOnlyData := by
  have hm := h.sound
  exact holdsOnlyData_of_sound (s := s.closeScope guard) ⟨hm.store, hm.operands,
    fun frame hframe => hm.frames frame ((s.scopes.frames_truncate_suffix guard.depth).mem hframe)⟩

mutual

/-- An action that supplies only data leaves a session that holds only data. -/
theorem HoldsOnlyData.perform {s : Session} (h : s.HoldsOnlyData) (a : Action)
    (ha : a.SuppliesData s) : (s.perform a).HoldsOnlyData := by
  have hm := h.sound
  cases a with
  | run source =>
    rcases hstart : (Action.run source).start? s with _ | c
    · rw [perform_run_of_start? hstart]
      exact h
    · exact h.perform_of_start? ha hstart
  | execute items => exact h.perform_of_start? ha rfl
  | call op => exact h.perform_of_start? ha rfl
  | push v =>
    obtain ⟨H, hm, hvalues⟩ := h.exists_sound [v] (List.forall_mem_singleton.mpr ha.2)
    have hv := List.forall_mem_singleton.mp hvalues
    exact holdsOnlyData_of_sound (s := s.push v) (hm.push ⟨ha.1, hv⟩)
  | pop =>
    rw [Session.perform, pop]
    split
    · next v rest hops =>
      have hdata := hm.operands
      rw [show s.state.machine.operands = v :: rest from hops, List.forall_mem_cons] at hdata
      exact holdsOnlyData_of_sound (hm.withOperands s.sink hdata.2)
    · exact h
  | define name v =>
    obtain ⟨H, hm, hvalues⟩ := h.exists_sound [v] (List.forall_mem_singleton.mpr ha.2)
    have hv := List.forall_mem_singleton.mp hvalues
    rw [Session.perform, define]
    rcases hdefine : s.scopes.define s.store name v with f | ⟨scopes, store⟩
    · exact h
    · obtain ⟨H, -, hsound⟩ := hm.define ⟨ha.1, hv⟩ hdefine
      exact holdsOnlyData_of_sound hsound
  | lookup bare => exact h
  | takeFaults => exact holdsOnlyData_of_sound (s := s.takeFaults.2) hm
  | clearOutput =>
    exact holdsOnlyData_of_sound (s := s.clearOutput) (hm.withOperands _ hm.operands)
  | flush => exact holdsOnlyData_of_sound (s := s.flush.2) (hm.withOperands _ hm.operands)
  | reset =>
    exact holdsOnlyData_of_sound (s := s.reset)
      ⟨hm.store, List.forall_mem_nil _, List.forall_mem_nil _⟩
  | arrange f =>
    exact holdsOnlyData_of_sound (s := s.perform (.arrange f))
      ⟨hm.store.congr ha, hm.operands, hm.frames⟩
  | scope frame inner =>
    exact (HoldsOnlyData.performAll (h.openScope ha.1) inner ha.2).closeScope _

/-- So do several. -/
theorem HoldsOnlyData.performAll {s : Session} (h : s.HoldsOnlyData) (actions : List Action)
    (hactions : Action.SupplyData s actions) : (s.performAll actions).HoldsOnlyData := by
  cases actions with
  | nil => exact h
  | cons a rest =>
    obtain ⟨ha, hrest⟩ := hactions
    exact HoldsOnlyData.performAll (HoldsOnlyData.perform h a ha) rest hrest

end

/-- Only data is held at every point. -/
theorem HoldsOnlyData.of_visits {actions : List Action} (h : s.HoldsOnlyData)
    (hvisits : Visits s actions t) (hactions : Action.SupplyData s actions) :
    t.HoldsOnlyData := by
  induction hvisits with
  | here => exact h
  | during hstart n => exact h.during hactions.1 hstart n
  | inside _ ih =>
    obtain ⟨hframe, hinner⟩ := hactions.1
    exact ih (h.openScope hframe) hinner
  | after _ ih => exact ih (h.perform _ hactions.1) hactions.2

/-- **Only data is held.** In a session that was new at first, whatever a host did with it and as
long as it supplied only data: at every point, also in the midst of a run, the operands are data,
and at every place that can be reached from the operands and the frames there is only data, and only
names are bound that may be defined. -/
theorem holds_only_data (policy : Policy) (sink : Sink) (actions : List Action)
    (h : Action.SupplyData (fresh policy sink) actions) (t : Session)
    (hvisits : Visits (fresh policy sink) actions t) : t.HoldsOnlyData :=
  (holdsOnlyData_fresh policy sink).of_visits hvisits h

/-- An array is built and pushed, and a program keeps it under a name and makes a procedure that
adds to its element one of an array literal. -/
theorem holds_only_data_of_array :
    let actions : List Action :=
      [.arrange fun store => (store.allocArray #[.number (.int 1)]).2, .push (.array ⟨0⟩),
        .run "/a exch def \x7b a 0 get [ 2 3 ] 0 get add \x7d", .takeFaults]
    Action.SupplyData (fresh .standard .silent) actions ∧
      (performAll (fresh .standard .silent) actions).HoldsOnlyData := by
  intro actions
  have hempty : Store.empty.Sound ∅ := ⟨fun r hr => hr.elim, fun r hr => hr.elim⟩
  have hitems : ∀ v ∈ #[Value.number (.int 1)], v.isData = true ∧ v.Within ∅ := by
    simpa using ⟨rfl, Value.Within.number _⟩
  have hsupply : Action.SupplyData (fresh .standard .silent) actions := by
    refine ⟨?_, ⟨rfl, ?_⟩, trivial, trivial, trivial⟩
    · -- nothing is held yet that could be changed
      rintro c ⟨root, hroot | ⟨frame, hframe, -⟩, -⟩
      · cases hroot
      · cases hframe
    · exact (hempty.allocArray hitems).isClean (.array (Set.mem_insert _ _))
  exact ⟨hsupply, holds_only_data _ _ _ hsupply _ (visits_performAll _ _)⟩

end Session

end StackScript
