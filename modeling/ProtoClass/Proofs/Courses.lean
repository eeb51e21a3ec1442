import Mathlib.Logic.Relation
import ProtoClass.Proofs.Congruence

set_option autoImplicit false

/- What an operation does is what it does by itself and what the functions do that it calls. A setting
that logs its calls tells these apart: it serves the same operation with the same outcome, and from
one logged call to the next the heap changes by the events of the operation itself. So what these
events keep, an operation keeps if the calls keep it that it makes. -/
namespace ProtoClass

/-- A call of a function that has ended, with the world that it found and the one that it left. -/
structure CallDone (σ : Type) where
  function : FunctionRef
  runtime : RuntimeRef
  this : Value
  args : List Value
  before : World σ
  answer : Except Error Value
  after : World σ

/-- A request that was served, with the worlds before and after it. -/
structure Performed (σ : Type) where
  request : Request
  before : World σ
  answer : Except Error request.Answer
  after : World σ

/-- The state of a program whose calls are logged: the state and the bodies of the program as it was,
and the calls so far. -/
structure Logged (σ : Type) where
  state : σ
  bodies : Array (Body σ)
  calls : List (CallDone σ)

section

variable {σ α : Type}

/-- The world with a log of the calls so far. -/
def World.logged (w : World σ) (calls : List (CallDone σ)) : World (Logged σ) :=
  ⟨w.heap, #[], ⟨w.state, w.bodies, calls⟩⟩

/-- The setting that calls functions in the same way and logs the calls. -/
def Setting.logging (s : Setting σ) : Setting (Logged σ) where
  call f rt this args := fun v =>
    let w : World σ := ⟨v.heap, v.state.bodies, v.state.state⟩
    (s.call f rt this args w).map fun ended =>
      (ended.1, ended.2.logged (v.state.calls ++ [⟨f, rt, this, args, w, ended.1, ended.2⟩]))
  watch := s.watch

/-- The calls that an operation makes in a world, in their order. -/
def Action.callsMade (y : Action (Logged σ) α) (w : World σ) : List (CallDone σ) :=
  ((y (w.logged [])).map fun ended => ended.2.state.calls).getD []

/-- Is this what a call comes to in the setting? -/
def Setting.Calls (s : Setting σ) (c : CallDone σ) : Prop :=
  s.call c.function c.runtime c.this c.args c.before = some (c.answer, c.after)

end

/-- A relation that holds from the first heap to the one which the first call found, from the one
which that left to the one which the second call found, and so on up to the last heap. -/
def Between {σ : Type} (R : Heap → Heap → Prop) : Heap → List (CallDone σ) → Heap → Prop
  | h, [], h' => R h h'
  | h, c :: calls, h' => R h c.before.heap ∧ Between R c.after.heap calls h'

namespace Between

variable {σ : Type} {R S : Heap → Heap → Prop} {h h' h'' : Heap} {calls calls' : List (CallDone σ)}

theorem mono (weaker : ∀ h h', R h h' → S h h') (between : Between R h calls h') :
    Between S h calls h' := by
  induction calls generalizing h with
  | nil => exact weaker _ _ between
  | cons c calls ih => exact ⟨weaker _ _ between.1, ih between.2⟩

theorem append (trans : ∀ h₁ h₂ h₃, R h₁ h₂ → R h₂ h₃ → R h₁ h₃) (first : Between R h calls h')
    (second : Between R h' calls' h'') : Between R h (calls ++ calls') h'' := by
  induction calls generalizing h with
  | nil =>
    cases calls' with
    | nil => exact trans _ _ _ first second
    | cons c calls' => exact ⟨trans _ _ _ first second.1, second.2⟩
  | cons c calls ih => exact ⟨first.1, ih first.2⟩

/-- What holds between the calls, and over each of them, holds from the first heap to the last. -/
theorem across (trans : ∀ h₁ h₂ h₃, R h₁ h₂ → R h₂ h₃ → R h₁ h₃) (between : Between R h calls h')
    (kept : ∀ c ∈ calls, R c.before.heap c.after.heap) : R h h' := by
  induction calls generalizing h with
  | nil => exact between
  | cons c calls ih =>
    obtain ⟨first, others⟩ := List.forall_mem_cons.1 kept
    exact trans _ _ _ (trans _ _ _ between.1 first) (ih between.2 others)

end Between

namespace Event

/-- Do events of these kinds lead from the one heap to the other? -/
def Lead (made : Event → Prop) : Heap → Heap → Prop :=
  Relation.ReflTransGen fun h h' => ∃ e, made e ∧ h' = e.apply h

/-- What each of the events keeps, they keep together. -/
theorem Lead.keeps {made : Event → Prop} {R : Heap → Heap → Prop} (refl : ∀ h, R h h)
    (trans : ∀ h₁ h₂ h₃, R h₁ h₂ → R h₂ h₃ → R h₁ h₃)
    (kept : ∀ (h : Heap) (e : Event), made e → R h (e.apply h)) {h h' : Heap}
    (lead : Lead made h h') : R h h' := by
  induction lead with
  | refl => exact refl _
  | tail _ step ih =>
    obtain ⟨e, among, rfl⟩ := step
    exact trans _ _ _ ih (kept _ e among)

end Event

namespace Update

variable {α β : Type} {made : Event → Prop}

/-- Does an operation on the heap take events of these kinds only? -/
def Takes (made : Event → Prop) (u : Update α) : Prop := ∀ h, Event.Lead made h (u h).2

theorem takes_pure (a : α) : Takes made (pure a : Update α) := fun _ => .refl

theorem takes_bind {u : Update α} {f : α → Update β} (first : u.Takes made)
    (rest : ∀ a, (f a).Takes made) : (u >>= f).Takes made :=
  fun h => (first h).trans (rest _ _)

theorem takes_get {f : Heap → Update β} (rest : ∀ h, (f h).Takes made) :
    ((get : Update Heap) >>= f).Takes made :=
  fun h => rest h h

theorem takes_event {u : Update α} {e : Event} (covers : made e) (effect : ∀ h, (u h).2 = e.apply h) :
    u.Takes made :=
  fun h => .single ⟨e, covers, effect h⟩

section Runtimes

variable (covers : ∀ e : Event, e.SetsUp → made e)
include covers

theorem takes_newBuiltins (entries : List (String × Builtin)) : (newBuiltins entries).Takes made := by
  induction entries with
  | nil => exact takes_pure _
  | cons entry rest ih =>
    have function := covers (.function entry.1 (.builtin entry.2)) trivial
    exact takes_bind (takes_event function fun _ => rfl) fun f => takes_bind ih fun _ => takes_pure _

theorem takes_buildRuntime (options : Options) : (buildRuntime options).Takes made := by
  have stage : ∀ {α : Type} {u : Update α} {e : Event}, e.SetsUp → (∀ h, (u h).2 = e.apply h) →
      u.Takes made :=
    fun setsUp effect => takes_event (covers _ setsUp) effect
  refine takes_bind (stage (e := .openRuntime _) trivial fun _ => rfl) fun rt => ?_
  refine takes_bind (takes_newBuiltins covers _) fun surface => takes_get fun _ => ?_
  refine takes_bind (stage (e := .furnish _ _) trivial fun _ => rfl) fun _ => ?_
  refine takes_bind (stage (e := .host _ _ _) trivial fun _ => rfl) fun strings => ?_
  refine takes_bind (takes_newBuiltins covers _) fun surface => ?_
  refine takes_bind (stage (e := .furnish _ _) trivial fun _ => rfl) fun _ => ?_
  refine takes_bind (takes_newBuiltins covers _) fun members => takes_get fun _ => ?_
  refine takes_bind (stage (e := .klass _ _ _) trivial fun _ => rfl) fun metadata => ?_
  refine takes_bind (stage (e := .closeRuntime _ _) trivial fun _ => rfl) fun _ => ?_
  exact takes_pure _

theorem takes_newRuntime (options : Options) : (newRuntime options).Takes made := by
  unfold newRuntime
  split
  · exact takes_pure _
  · exact takes_bind (takes_buildRuntime covers options) fun _ => takes_pure _

end Runtimes

end Update

/-- The second action does what the first one does and logs the calls that this makes: each is one of
the setting, and between them only events of these kinds happen. -/
def Action.Charted {σ α : Type} (s : Setting σ) (made : Event → Prop) (x : Action σ α)
    (y : Action (Logged σ) α) : Prop :=
  ∀ w r w', x w = some (r, w') → ∃ calls,
    (∀ earlier, y (w.logged earlier) = some (r, w'.logged (earlier ++ calls))) ∧
    (∀ c ∈ calls, s.Calls c) ∧ Between (Event.Lead made) w.heap calls w'.heap

namespace Action

variable {σ α β : Type} {s : Setting σ} {made : Event → Prop}

/-- An action that makes no call. -/
theorem charted_of_silent {x : Action σ α} {y : Action (Logged σ) α}
    (silent : ∀ w r w', x w = some (r, w') →
      (∀ earlier, y (w.logged earlier) = some (r, w'.logged earlier)) ∧
        Event.Lead made w.heap w'.heap) : x.Charted s made y := by
  intro w r w' run
  obtain ⟨same, lead⟩ := silent w r w' run
  refine ⟨[], fun earlier => ?_, List.forall_mem_nil _, lead⟩
  rw [List.append_nil]
  exact same earlier

theorem charted_pure (a : α) : (pure a : Action σ α).Charted s made (pure a) := by
  refine charted_of_silent ?_
  rintro w r w' ⟨⟩
  exact ⟨fun _ => rfl, .refl⟩

theorem charted_ofExcept (r : Except Error α) :
    (ofExcept r : Action σ α).Charted s made (ofExcept r) := by
  refine charted_of_silent ?_
  rintro w r w' ⟨⟩
  exact ⟨fun _ => rfl, .refl⟩

theorem charted_ofOption (x : Option α) : (ofOption x : Action σ α).Charted s made (ofOption x) := by
  refine charted_of_silent fun w r w' run => ?_
  obtain ⟨a, rfl, same⟩ := Option.map_eq_some_iff.1 run
  cases same
  exact ⟨fun _ => rfl, .refl⟩

theorem charted_bind {x : Action σ α} {y : Action (Logged σ) α} {f : α → Action σ β}
    {g : α → Action (Logged σ) β} (first : x.Charted s made y)
    (rest : ∀ a, (f a).Charted s made (g a)) : (x >>= f).Charted s made (y >>= g) := by
  intro w r w'' run
  rcases bind_inv run with ⟨e, failed, rfl⟩ | ⟨a, w', start, finish⟩
  · obtain ⟨calls, same, made, between⟩ := first _ _ _ failed
    exact ⟨calls, fun earlier => bind_of_error (same earlier), made, between⟩
  · obtain ⟨calls, same, made, between⟩ := first _ _ _ start
    obtain ⟨calls', same', made', between'⟩ := rest a _ _ _ finish
    refine ⟨calls ++ calls', fun earlier => ?_, ?_, between.append (fun _ _ _ => .trans) between'⟩
    · rw [bind_of_ok (same earlier), same', List.append_assoc]
    · intro c among
      exact (List.mem_append.1 among).elim (made c) (made' c)

theorem charted_heap {f : Heap → Action σ β} {g : Heap → Action (Logged σ) β}
    (rest : ∀ h, (f h).Charted s made (g h)) : (heap >>= f).Charted s made (heap >>= g) :=
  fun w r w' run => rest w.heap w r w' run

theorem charted_attempt {x : Action σ α} {y : Action (Logged σ) α} (charted : x.Charted s made y) :
    x.attempt.Charted s made y.attempt := by
  intro w r w' run
  obtain ⟨⟨r', w''⟩, start, same⟩ := Option.map_eq_some_iff.1 run
  cases same
  obtain ⟨calls, same, made, between⟩ := charted _ _ _ start
  refine ⟨calls, fun earlier => ?_, made, between⟩
  rw [attempt, same earlier]
  rfl

theorem charted_update {u : Update α} (takes : u.Takes made) :
    (update u : Action σ α).Charted s made (update u) := by
  refine charted_of_silent ?_
  rintro w r w' ⟨⟩
  exact ⟨fun _ => rfl, takes w.heap⟩

theorem charted_tryUpdate {u : Update (Except Error α)} (takes : u.Takes made) :
    (tryUpdate u : Action σ α).Charted s made (tryUpdate u) := by
  refine charted_of_silent ?_
  rintro w r w' ⟨⟩
  exact ⟨fun _ => rfl, takes w.heap⟩

end Action

/-- The course of an operation from one world to another: what it is when its calls are logged. -/
structure Course {σ α : Type} (s : Setting σ) (made : Event → Prop) (y : Action (Logged σ) α)
    (w : World σ) (r : Except Error α) (w' : World σ) : Prop where
  outcome : y (w.logged []) = some (r, w'.logged (y.callsMade w))
  calls : ∀ c ∈ y.callsMade w, s.Calls c
  between : Between (Event.Lead made) w.heap (y.callsMade w) w'.heap

theorem Action.Charted.course {σ α : Type} {s : Setting σ} {made : Event → Prop} {x : Action σ α}
    {y : Action (Logged σ) α} (charted : x.Charted s made y) {w w' : World σ} {r : Except Error α}
    (run : x w = some (r, w')) : Course s made y w r w' := by
  obtain ⟨calls, same, made, between⟩ := charted w r w' run
  have found : y.callsMade w = calls := by
    rw [callsMade, same]
    rfl
  rw [← found] at made between
  refine ⟨?_, made, between⟩
  rw [found, same, List.nil_append]

/-- What the events of an operation keep, and the calls that it makes, the operation keeps. -/
theorem Course.keeps {σ α : Type} {s : Setting σ} {made : Event → Prop} {y : Action (Logged σ) α}
    {w w' : World σ} {r : Except Error α} (course : Course s made y w r w') {R : Heap → Heap → Prop}
    (refl : ∀ h, R h h) (trans : ∀ h₁ h₂ h₃, R h₁ h₂ → R h₂ h₃ → R h₁ h₃)
    (events : ∀ (h : Heap) (e : Event), made e → R h (e.apply h)) :
    Between R w.heap (y.callsMade w) w'.heap :=
  course.between.mono fun _ _ => Event.Lead.keeps refl trans events

namespace Setting

open ProtoClass.Action

variable {σ : Type} (s : Setting σ) {made : Event → Prop}

theorem charted_write {α : Type} (o : ObjectRef) {u : Update α} (wrote : α → Bool)
    (takes : u.Takes made) : (s.write o u wrote).Charted s made (s.logging.write o u wrote) := by
  refine charted_of_silent fun w r w' run => ?_
  unfold write at run ⊢
  split at run
  · cases run
  · next permitted =>
    cases run
    exact ⟨fun _ => if_neg permitted, takes w.heap⟩

theorem charted_call (f : FunctionRef) (rt : RuntimeRef) (this : Value) (args : List Value) :
    (s.call f rt this args).Charted s made (s.logging.call f rt this args) := by
  intro w r w' run
  refine ⟨[⟨f, rt, this, args, w, r, w'⟩], fun earlier => ?_, ?_, .refl, .refl⟩
  · show (s.call f rt this args w).map _ = _
    rw [run]
    rfl
  · rw [List.forall_mem_singleton]
    exact run

/-- All operations are charted by what they are when their calls are logged. -/
def courseCongruence (made : Event → Prop) : Congruence s s.logging made where
  rel x y := x.Charted s made y
  pure := charted_pure
  fail e := charted_ofExcept (.error e)
  ofExcept := charted_ofExcept
  ofOption := charted_ofOption
  bind := charted_bind
  heap := charted_heap
  attempt := charted_attempt
  update covers effect := charted_update (Update.takes_event covers effect)
  tryUpdate covers effect := charted_tryUpdate (Update.takes_event covers effect)
  newRuntime covers options := charted_tryUpdate (Update.takes_newRuntime covers options)
  write o _ wrote _ covers effect := s.charted_write o wrote (Update.takes_event covers effect)
  call := s.charted_call

/-- Serving a request makes, between the calls, events that it may make only. -/
theorem perform_course {q : Request} {w w' : World σ} {r : Except Error q.Answer}
    (run : s.perform q w = some (r, w')) : Course s q.Makes (s.logging.perform q) w r w' := by
  have charted : (s.perform q).Charted s q.Makes (s.logging.perform q) := by
    intro w r w' run
    obtain ⟨live, asked, served⟩ := perform_inv run
    obtain ⟨calls, same, rest⟩ := (s.courseCongruence q.Makes).serve q (fun _ => id) w r w' served
    refine ⟨calls, fun earlier => ?_, rest⟩
    rw [perform_apply (w := w.logged earlier) live asked]
    exact same earlier
  exact charted.course run

/-- So does a built-in function. -/
theorem runBuiltin_course {b : Builtin} {rt : RuntimeRef} {this : Value} {args : List Value}
    {w w' : World σ} {r : Except Error Value} (run : s.runBuiltin b rt this args w = some (r, w')) :
    Course s (b.Makes this) (s.logging.runBuiltin b rt this args) w r w' :=
  Charted.course ((s.courseCongruence (b.Makes this)).runBuiltin b rt this args fun _ => id) run

/-- The requests that a program makes in a run from a world. -/
inductive Performs (s : Setting σ) : Program σ → World σ → Performed σ → Prop where
  | inspect {next : Heap → σ → Program σ} {w : World σ} {a : Performed σ}
      (rest : Performs s (next w.heap w.state) w a) : Performs s (.inspect next) w a
  | store {state : σ} {next : Program σ} {w : World σ} {a : Performed σ}
      (rest : Performs s next { w with state } a) : Performs s (.store state next) w a
  | newFunction {name : String} {body : Body σ} {next : FunctionRef → Program σ} {w : World σ}
      {a : Performed σ}
      (rest : Performs s (next (Update.newFunction name (.program w.bodies.size) w.heap).1)
        ⟨(Update.newFunction name (.program w.bodies.size) w.heap).2, w.bodies.push body, w.state⟩
        a) :
      Performs s (.newFunction name body next) w a
  | first {q : Request} {next : Except Error q.Answer → Program σ} {w w' : World σ}
      {r : Except Error q.Answer} (served : s.perform q w = some (r, w')) :
      Performs s (.ask q next) w ⟨q, w, r, w'⟩
  | rest {q : Request} {next : Except Error q.Answer → Program σ} {w w' : World σ}
      {r : Except Error q.Answer} {a : Performed σ} (served : s.perform q w = some (r, w'))
      (rest : Performs s (next r) w' a) : Performs s (.ask q next) w a

theorem Performs.served {s : Setting σ} {p : Program σ} {w : World σ} {a : Performed σ}
    (performs : s.Performs p w a) : s.perform a.request a.before = some (a.answer, a.after) := by
  induction performs with
  | first served => exact served
  | inspect _ ih | store _ ih | newFunction _ ih | rest _ _ ih => exact ih

/-- What the requests of a program keep, and the making of functions, the program keeps. -/
theorem run_across {s : Setting σ} {R : Heap → Heap → Prop} (refl : ∀ h, R h h)
    (trans : ∀ h₁ h₂ h₃, R h₁ h₂ → R h₂ h₃ → R h₁ h₃)
    (functions : ∀ h name i, R h ((Event.function name (.program i)).apply h)) {p : Program σ}
    {w w' : World σ} {r : Except Error Value} (run : s.run p w = some (r, w'))
    (kept : ∀ a, s.Performs p w a → R a.before.heap a.after.heap) : R w.heap w'.heap := by
  induction p generalizing w with
  | done outcome =>
    obtain ⟨_, rfl, _⟩ := run_done_inv run
    exact refl _
  | inspect next ih =>
    unfold Setting.run at run
    split at run
    · exact ih _ _ run fun a asked => kept a (.inspect asked)
    · cases run
  | store state next ih =>
    rw [run_store_apply] at run
    have rest := ih run fun a asked => kept a (.store asked)
    exact rest
  | newFunction name body next _ ih =>
    rw [run_newFunction_apply] at run
    exact trans _ _ _ (functions w.heap name _) (ih _ run fun a asked => kept a (.newFunction asked))
  | ask q next ih =>
    obtain ⟨answer, between, served, rest⟩ := run_ask_inv run
    exact trans _ _ _ (kept _ (.first served)) (ih answer rest fun a asked => kept a (.rest served asked))

end Setting

end ProtoClass
