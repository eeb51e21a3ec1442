import ProtoClass.Proofs.Serve

set_option autoImplicit false

/- A run is more than its end: while an outer operation is still going on, the functions that it calls
see heaps of their own, and a run that never ends has no end at all. `Program.noted` is a program
that does the same and notes the world before each of its steps, and before each step of the
functions that it makes, and what has just been answered; it stops after a given number of steps. So
the moments of a run are all worlds that it goes through between two steps. -/
namespace ProtoClass

section Heaps

variable {σ : Type} {watch : Watch} {P : Heap → Prop}

/-- Every program keeps what lasts of the heap. -/
theorem run_keeps (stable : Stable (σ := σ) watch fun w => P w.heap) {s : Setting σ}
    (same : s.watch = watch) (lawful : s.Lawful fun w => P w.heap) (p : Program σ) {w : World σ}
    (holds : P w.heap) : (s.run p).Keeps watch (fun w => P w.heap) w liveAnswer := by
  subst same
  induction p generalizing w with
  | done outcome => exact Setting.run_done holds outcome
  | inspect next ih => exact Setting.run_inspect (ih _ _ holds)
  | store state next ih =>
    have rest : P ({ w with state } : World σ).heap := holds
    exact Setting.run_store (ih rest)
  | newFunction name body next _ ih =>
    have made : P (Update.newFunction name (.program w.bodies.size) w.heap).2 :=
      stable.later holds (.of_event (e := .function name _) trivial trivial)
    exact Setting.run_newFunction (ih _ made)
  | ask q next ih => exact Setting.run_ask lawful holds fun r _ kept _ => ih r kept.holds

/-- Functions called within any depth keep what lasts of the heap, whatever programs made them. -/
theorem within_keeps (stable : Stable (σ := σ) watch fun w => P w.heap) (depth : Nat) :
    (Setting.within (σ := σ) watch depth).Lawful fun w => P w.heap :=
  Setting.lawful_within stable
    (fun same lawful _ _ _ _ _ _ holds _ => run_keeps stable same lawful _ holds) depth

end Heaps

section Reached

variable {σ : Type} (watch : Watch)

/-- The heap is reached. -/
def Reached (w : World σ) : Prop := w.heap.Reached watch

theorem stable_reached : Stable watch (Reached (σ := σ) watch) where
  reached := id
  later reached passes := passes.reached reached

/-- Functions called within any depth keep to the law, whatever programs made them. -/
theorem within_lawful (depth : Nat) :
    (Setting.within (σ := σ) watch depth).Lawful (Reached watch) :=
  within_keeps (stable_reached watch) depth

/-- The heap is reached and no runtime is under construction: each was built. The objects that stand
for descriptors are prototypes of no class. -/
structure Heap.Settled (h : Heap) : Prop where
  reached : h.Reached watch
  built : ∀ rt, h.runtimes.isLive rt = true → h.Built watch rt
  unbound : ∀ d, h.descriptors.isLive d = true → h.Unbound (h.descriptor d).object

variable {watch}

theorem Heap.Settled.later {h h' : Heap} (settled : h.Settled watch) (passes : Passes watch h h') :
    h'.Settled watch :=
  ⟨passes.reached settled.reached, passes.all_built settled.built,
    passes.all_unbound settled.unbound⟩

theorem Heap.settled_empty : ({} : Heap).Settled watch := by
  have dead : ∀ {k : Kind} {α : Type} {r : Ref k}, ¬ ({} : Arena k α).isLive r = true := by
    intro k α r
    rw [Arena.isLive_iff]
    exact Nat.not_lt_zero _
  exact ⟨⟨[], .nil _⟩, fun rt live => absurd live dead, fun d live => absurd live dead⟩

theorem within_settled (depth : Nat) :
    (Setting.within (σ := σ) watch depth).Lawful fun w => w.heap.Settled watch :=
  within_keeps ⟨fun settled => settled.reached, fun settled => settled.later⟩ depth

end Reached

/-- A request that was answered, and the heap in which it was made. -/
structure Answered where
  request : Request
  before : Heap
  answer : Except Error request.Answer

/-- A world that a run goes through, and the request that was answered in the step before. -/
structure Moment (σ : Type) extends World σ where
  answered : Option Answered

/-- The state of a program that notes what it goes through: the state and the bodies of the program
as it was, the number of steps it may still take, and the moments so far, the latest one first. -/
structure Record (σ : Type) where
  state : σ
  bodies : Array (Body σ) := #[]
  remaining : Nat
  moments : List (Moment σ) := []

/-- Adds a moment, which uses up a step. -/
def Record.note {σ : Type} (r : Record σ) (m : Moment σ) : Record σ :=
  { r with remaining := r.remaining - 1, moments := m :: r.moments }

namespace Program

variable {σ : Type}

/-- Notes the moment and goes on, or stops with an error when no step is left. -/
def note (answered : Option Answered) (next : Program (Record σ)) : Program (Record σ) :=
  .inspect fun h r =>
    if r.remaining = 0 then .done (.error (.typeError (.other "stopped")))
    else .store (r.note ⟨⟨h, r.bodies, r.state⟩, answered⟩) next

/-- The program that does the same and notes each moment. -/
def noted (answered : Option Answered) : Program σ → Program (Record σ)
  | .done outcome => note answered (.done outcome)
  | .inspect next => note answered (.inspect fun h r => noted none (next h r.state))
  | .store state next =>
    note answered (.inspect fun _ r => .store { r with state } (noted none next))
  | .newFunction name body next =>
    note answered (.inspect fun _ r => .store { r with bodies := r.bodies.push body }
      (.newFunction name (fun rt this args => noted none (body rt this args))
        fun f => noted none (next f)))
  | .ask q next =>
    note answered (.inspect fun h _ => .ask q fun r => noted (some ⟨q, h, r⟩) (next r))

/-- The moments of a run in their order: the first `count` of them, with calls nested at most
`depth` deep. -/
def moments (watch : Watch) (depth : Nat) (p : Program σ) (state : σ) (count : Nat) :
    List (Moment σ) :=
  match (Setting.within watch depth).run (p.noted none)
      { state := { state, remaining := count } } with
  | some (_, w) => w.state.moments.reverse
  | none => []

end Program

/-- Was the request served under the watch, by functions that keep to the law, and did that leave the
heap? -/
def Answered.Served (watch : Watch) (h : Heap) (a : Answered) : Prop :=
  ∃ (τ : Type) (s : Setting τ) (J : World τ → Prop) (w w' : World τ), s.watch = watch ∧
    s.Lawful J ∧ J w ∧ w.heap = a.before ∧ w'.heap = h ∧ s.perform a.request w = some (a.answer, w')

/-- The later heap has everything that the one had in which the request was made. -/
theorem Answered.Served.extends {watch : Watch} {h : Heap} {a : Answered} (served : a.Served watch h) :
    a.before.Extends h := by
  obtain ⟨τ, s, J, w, w', _, lawful, holds, before, rfl, run⟩ := served
  rw [← before]
  exact (lawful.perform holds a.request a.answer w' run).leads.extended

/-- What is known of a request where its answer is noted: it was made in a reached heap and named
things that were there, and the answer is what was asked for. -/
structure Answered.Known (watch : Watch) (h : Heap) (a : Answered) : Prop where
  reached : a.before.Reached watch
  live : a.request.isLive a.before = true
  meets : a.request.Meets a.before h a.answer
  served : a.Served watch h

/-- What holds of a moment: its heap is settled, and what was answered is what was asked for. -/
structure Moment.Sound {σ : Type} (watch : Watch) (m : Moment σ) : Prop
    extends Heap.Settled watch m.heap where
  known : ∀ a, m.answered = some a → a.Known watch m.heap

/-- What holds of the record at any time: the moments in it are sound, each later than every earlier
one, and the heap is later than all of them. -/
structure Recorded {σ : Type} (watch : Watch) (w : World (Record σ)) : Prop
    extends Heap.Settled watch w.heap where
  bodies : ∀ (i : Nat) (body : Body (Record σ)), w.bodies[i]? = some body →
    ∃ plain : Body σ, ∀ rt this args, body rt this args = (plain rt this args).noted none
  moments : ∀ m ∈ w.state.moments, m.Sound watch ∧ Passes watch m.heap w.heap
  ordered : w.state.moments.Pairwise fun later earlier => Passes watch earlier.heap later.heap

namespace Recorded

variable {σ : Type} {watch : Watch} {w : World (Record σ)}

theorem later (recorded : Recorded watch w) {h' : Heap} (passes : Passes watch w.heap h') :
    Recorded watch { w with heap := h' } where
  toSettled := recorded.toSettled.later passes
  bodies := recorded.bodies
  moments m member := by
    obtain ⟨sound, first⟩ := recorded.moments m member
    exact ⟨sound, first.trans passes⟩
  ordered := recorded.ordered

/-- Everything but the moments in the record may be changed. -/
theorem state (recorded : Recorded watch w) {record : Record σ}
    (same : record.moments = w.state.moments) : Recorded watch { w with state := record } where
  toSettled := recorded.toSettled
  bodies := recorded.bodies
  moments := by
    rw [same]
    exact recorded.moments
  ordered := by
    rw [same]
    exact recorded.ordered

theorem note (recorded : Recorded watch w) {m : Moment σ} (here : m.heap = w.heap)
    (sound : m.Sound watch) {record : Record σ} (noted : record.moments = m :: w.state.moments) :
    Recorded watch { w with state := record } where
  toSettled := recorded.toSettled
  bodies := recorded.bodies
  moments := by
    rw [noted]
    refine List.forall_mem_cons.2 ⟨⟨sound, ?_⟩, recorded.moments⟩
    rw [here]
    exact .refl _ _
  ordered := by
    rw [noted]
    refine List.pairwise_cons.2 ⟨fun other member => ?_, recorded.ordered⟩
    rw [here]
    exact (recorded.moments other member).2

theorem push (recorded : Recorded watch w) {h' : Heap} (passes : Passes watch w.heap h')
    (plain : Body σ) :
    Recorded watch
      ⟨h', w.bodies.push fun rt this args => (plain rt this args).noted none, w.state⟩ where
  toSettled := recorded.toSettled.later passes
  bodies i body stored := by
    rw [Array.getElem?_push] at stored
    split at stored
    · cases stored
      exact ⟨plain, fun _ _ _ => rfl⟩
    · exact recorded.bodies i body stored
  moments := (recorded.later passes).moments
  ordered := recorded.ordered

end Recorded

section Noted

variable {σ : Type} {watch : Watch} {s : Setting (Record σ)}

theorem stable_recorded : Stable watch (Recorded (σ := σ) watch) where
  reached recorded := recorded.reached
  later recorded := recorded.later

theorem known_none (watch : Watch) (h : Heap) : ∀ a, none = some a → Answered.Known watch h a := by
  intro a wrong
  cases wrong

theorem run_note {w : World (Record σ)} (recorded : Recorded s.watch w)
    {answered : Option Answered} (known : ∀ a, answered = some a → a.Known s.watch w.heap)
    {next : Program (Record σ)}
    (rest : ∀ record, Recorded s.watch { w with state := record } →
      (s.run next).Keeps s.watch (Recorded s.watch) { w with state := record } liveAnswer) :
    (s.run (Program.note answered next)).Keeps s.watch (Recorded s.watch) w liveAnswer := by
  refine Setting.run_inspect ?_
  split
  · exact Setting.run_done recorded _
  · exact Setting.run_store (rest _ (recorded.note rfl ⟨recorded.toSettled, known⟩ rfl))

/-- A program that notes what it goes through keeps to the law. -/
theorem run_noted (lawful : s.Lawful (Recorded s.watch)) (p : Program σ) {w : World (Record σ)}
    (recorded : Recorded s.watch w) {answered : Option Answered}
    (known : ∀ a, answered = some a → a.Known s.watch w.heap) :
    (s.run (p.noted answered)).Keeps s.watch (Recorded s.watch) w liveAnswer := by
  induction p generalizing w answered with
  | done outcome =>
    exact run_note recorded known fun _ recorded => Setting.run_done recorded outcome
  | inspect next ih =>
    exact run_note recorded known fun _ recorded => Setting.run_inspect (ih _ _ recorded (known_none _ _))
  | store state next ih =>
    refine run_note recorded known fun record recorded =>
      Setting.run_inspect (Setting.run_store ?_)
    have kept : Recorded s.watch { w with state := { record with state } } := recorded.state rfl
    exact ih kept (known_none _ _)
  | newFunction name body next _ ih =>
    refine run_note recorded known fun record recorded =>
      Setting.run_inspect (Setting.run_store ?_)
    have kept : Recorded s.watch { w with state := { record with
      bodies := record.bodies.push body } } := recorded.state rfl
    have made : Passes s.watch w.heap (Update.newFunction name (.program w.bodies.size) w.heap).2 :=
      .of_event (e := .function name _) trivial trivial
    exact Setting.run_newFunction (ih _ (kept.push made body) (known_none _ _))
  | ask q next ih =>
    refine run_note recorded known fun record recorded => Setting.run_inspect ?_
    refine Setting.run_ask lawful recorded fun r w' kept served => ih r kept.holds ?_
    intro a same
    cases same
    exact ⟨recorded.reached, (Setting.perform_inv served).1, lawful.perform_meets recorded served,
      _, s, _, _, w', rfl, lawful, recorded, rfl, rfl, served⟩

theorem within_noted (depth : Nat) :
    (Setting.within (σ := Record σ) watch depth).Lawful (Recorded watch) := by
  refine Setting.lawful_within stable_recorded ?_ depth
  intro s same lawful w i body rt this args recorded stored
  subst same
  obtain ⟨plain, noted⟩ := recorded.bodies i body stored
  rw [noted]
  exact run_noted lawful _ recorded (known_none _ _)

end Noted

namespace Program

variable {σ : Type} {watch : Watch} {depth : Nat} {p : Program σ} {state : σ} {count : Nat}

theorem recorded_moments (watch : Watch) (depth : Nat) (p : Program σ) (state : σ) (count : Nat) :
    (∀ m ∈ p.moments watch depth state count, m.Sound watch) ∧
      (p.moments watch depth state count).Pairwise fun earlier later =>
        Passes watch earlier.heap later.heap := by
  unfold moments
  split
  · next outcome w run =>
    have start : Recorded watch (σ := σ) { state := { state, remaining := count } } :=
      ⟨Heap.settled_empty, fun i body stored => by simp at stored, List.forall_mem_nil _, .nil⟩
    have kept := run_noted (within_noted depth) p start (known_none _ _) _ _ run
    refine ⟨fun m member => (kept.holds.moments m (List.mem_reverse.1 member)).1, ?_⟩
    rw [List.pairwise_reverse]
    exact kept.holds.ordered
  · exact ⟨List.forall_mem_nil _, .nil⟩

/-- Every moment of a run is sound. -/
theorem sound_of_mem_moments {m : Moment σ} (member : m ∈ p.moments watch depth state count) :
    m.Sound watch :=
  (recorded_moments watch depth p state count).1 m member

/-- From each moment of a run a passage leads to every later one. -/
theorem moments_pass (watch : Watch) (depth : Nat) (p : Program σ) (state : σ) (count : Nat) :
    (p.moments watch depth state count).Pairwise fun earlier later =>
      Passes watch earlier.heap later.heap :=
  (recorded_moments watch depth p state count).2

theorem moments_ordered (watch : Watch) (depth : Nat) (p : Program σ) (state : σ) (count : Nat) :
    (p.moments watch depth state count).Pairwise fun earlier later =>
      ∃ es, Trace watch earlier.heap es later.heap :=
  (moments_pass watch depth p state count).imp Passes.trace

end Program

end ProtoClass
