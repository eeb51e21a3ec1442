import ProtoClass.Proofs.Bootstrap

set_option autoImplicit false

/- An action keeps to the law when each of its outcomes leaves a world in which the invariant of worlds
holds again, at the end of a trace from the heap it found, with an answer of which something is
known. The rules below follow the way actions are put together; what they need of the functions that
an action calls is said once, by `Setting.Lawful`. -/
namespace ProtoClass

variable {σ α β : Type} {watch : Watch} {J : World σ → Prop} {w : World σ}

/-- An invariant of worlds that nothing breaks which passes under a watch. -/
structure Stable (watch : Watch) (J : World σ → Prop) : Prop where
  reached : ∀ {w}, J w → w.heap.Reached watch
  later : ∀ {w h'}, J w → Passes watch w.heap h' → J { w with heap := h' }

theorem Stable.closed (stable : Stable watch J) (holds : J w) : w.heap.Closed :=
  (stable.reached holds).closed

/-- What is known of an outcome. -/
structure Kept (watch : Watch) (J : World σ → Prop) (A : α → Heap → Prop) (w : World σ)
    (r : Except Error α) (w' : World σ) : Prop where
  holds : J w'
  leads : Leads watch w.heap w'.heap
  answer : ∀ a, r = .ok a → A a w'.heap

/-- Each outcome of the action in this world is as it should be. -/
def Action.Keeps (watch : Watch) (J : World σ → Prop) (w : World σ) (x : Action σ α)
    (A : α → Heap → Prop) : Prop :=
  ∀ r w', x w = some (r, w') → Kept watch J A w r w'

/-- Nothing is known of the answer. -/
def anyAnswer (_ : α) (_ : Heap) : Prop := True

/-- The answer is a value that the heap has. -/
def liveAnswer (v : Value) (h : Heap) : Prop := h.hasValue v = true

namespace Action

variable {A : α → Heap → Prop} {B : β → Heap → Prop}

theorem Keeps.weaken {x : Action σ α} {A' : α → Heap → Prop} (kept : x.Keeps watch J w A)
    (weaker : ∀ a h', Leads watch w.heap h' → A a h' → A' a h') : x.Keeps watch J w A' := by
  intro r w' run
  have outcome := kept r w' run
  exact ⟨outcome.holds, outcome.leads, fun a ok => weaker a _ outcome.leads (outcome.answer a ok)⟩

theorem keeps_pure {a : α} (holds : J w) (answer : A a w.heap) :
    (pure a : Action σ α).Keeps watch J w A := by
  rintro r w' ⟨⟩
  refine ⟨holds, .refl _ _, ?_⟩
  rintro b ⟨⟩
  exact answer

theorem keeps_fail (holds : J w) (e : Error) : (fail e : Action σ α).Keeps watch J w A := by
  rintro r w' ⟨⟩
  exact ⟨holds, .refl _ _, nofun⟩

theorem keeps_ofExcept {r : Except Error α} (holds : J w) (answer : ∀ a, r = .ok a → A a w.heap) :
    (ofExcept r : Action σ α).Keeps watch J w A := by
  rintro r w' ⟨⟩
  exact ⟨holds, .refl _ _, answer⟩

theorem keeps_ofOption {x : Option α} (holds : J w) (answer : ∀ a, x = some a → A a w.heap) :
    (ofOption x : Action σ α).Keeps watch J w A := by
  intro r w' run
  obtain ⟨a, found, same⟩ := Option.map_eq_some_iff.1 run
  cases same
  refine ⟨holds, .refl _ _, ?_⟩
  rintro b ⟨⟩
  exact answer a found

/-- The rest may be judged from where the first part began. -/
theorem keeps_bind_whole {x : Action σ α} {f : α → Action σ β} (first : x.Keeps watch J w A)
    (rest : ∀ a w', J w' → Leads watch w.heap w'.heap → A a w'.heap →
      ∀ r w'', f a w' = some (r, w'') → Kept watch J B w r w'') :
    (x >>= f).Keeps watch J w B := by
  intro r w'' run
  rcases bind_inv run with ⟨e, failed, rfl⟩ | ⟨a, w', start, finish⟩
  · have outcome := first _ _ failed
    exact ⟨outcome.holds, outcome.leads, nofun⟩
  · have between := first _ _ start
    exact rest a w' between.holds between.leads (between.answer a rfl) r w'' finish

theorem keeps_bind {x : Action σ α} {f : α → Action σ β} (first : x.Keeps watch J w A)
    (rest : ∀ a w', J w' → Leads watch w.heap w'.heap → A a w'.heap → (f a).Keeps watch J w' B) :
    (x >>= f).Keeps watch J w B := by
  refine keeps_bind_whole first fun a w' holds leads answer r w'' finish => ?_
  have last := rest a w' holds leads answer r w'' finish
  exact ⟨last.holds, leads.trans last.leads, last.answer⟩

theorem keeps_heap {f : Heap → Action σ β} (rest : (f w.heap).Keeps watch J w B) :
    (heap >>= f).Keeps watch J w B := by
  intro r w' run
  rw [heap_bind_apply] at run
  exact rest r w' run

/-- The rest of an action sees an outcome as its first part left it. -/
theorem keeps_attempt {x : Action σ α} (kept : x.Keeps watch J w A) :
    x.attempt.Keeps watch J w fun r h => ∀ a, r = .ok a → A a h := by
  intro r w' run
  obtain ⟨⟨r', w''⟩, start, same⟩ := Option.map_eq_some_iff.1 run
  cases same
  have outcome := kept r' w' start
  refine ⟨outcome.holds, outcome.leads, ?_⟩
  rintro r ⟨⟩
  exact outcome.answer

theorem keeps_update (stable : Stable watch J) (holds : J w) {u : Update α}
    (leads : Leads watch w.heap (u w.heap).2) (answer : A (u w.heap).1 (u w.heap).2) :
    (update u : Action σ α).Keeps watch J w A := by
  rintro r w' ⟨⟩
  refine ⟨stable.later holds leads.toPasses, leads, ?_⟩
  rintro a ⟨⟩
  exact answer

theorem keeps_tryUpdate (stable : Stable watch J) (holds : J w) {u : Update (Except Error α)}
    (leads : Leads watch w.heap (u w.heap).2)
    (answer : ∀ a, (u w.heap).1 = .ok a → A a (u w.heap).2) :
    (tryUpdate u : Action σ α).Keeps watch J w A := by
  rintro r w' ⟨⟩
  exact ⟨stable.later holds leads.toPasses, leads, answer⟩

end Action

theorem Setting.keeps_write {s : Setting σ} (stable : Stable s.watch J) (holds : J w)
    {o : ObjectRef} {u : Update α} {wrote : α → Bool}
    (leads : (wrote (u w.heap).1 = true → s.watch.mayWrite w.heap o = true) →
      Leads s.watch w.heap (u w.heap).2) :
    (s.write o u wrote).Keeps s.watch J w anyAnswer := by
  intro r w' run
  unfold write at run
  split at run
  · cases run
  · next permitted =>
    cases run
    have led := leads fun accepted => by simpa [accepted] using permitted
    exact ⟨stable.later holds led.toPasses, led, fun _ _ => trivial⟩

/-- What an action may count on of the functions that it calls. -/
structure Setting.Lawful (s : Setting σ) (J : World σ → Prop) : Prop where
  stable : Stable s.watch J
  call : ∀ {f rt this args w}, J w → w.heap.functions.isLive f = true →
    w.heap.runtimes.isLive rt = true → w.heap.hasValue this = true →
    args.all w.heap.hasValue = true → (s.call f rt this args).Keeps s.watch J w liveAnswer
  builtin : ∀ {f b rt this args w outcome}, (w.heap.function f).code = .builtin b →
    s.call f rt this args w = some outcome →
    ∃ inner : Setting σ, inner.watch = s.watch ∧ inner.runBuiltin b rt this args w = some outcome

end ProtoClass
