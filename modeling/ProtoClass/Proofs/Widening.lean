import ProtoClass.Proofs.Congruence
import ProtoClass.Proofs.Moment

set_option autoImplicit false

/- A watch rules results out and a bound on nested calls does too, but neither changes one: what has a
result under a watch has the same under every watch that permits more, and with a greater bound. So
what is proved to end while nothing but new objects is written ends for every program. -/
namespace ProtoClass

/-- The second watch permits whatever the first one does. -/
structure Watch.Le (watch wider : Watch) : Prop where
  write : ∀ h o, watch.mayWrite h o = true → wider.mayWrite h o = true
  ask : ∀ h q, watch.mayAsk h q = true → wider.mayAsk h q = true
  shown : ∀ h, watch.mayShow h = true → wider.mayShow h = true

instance : LE Watch := ⟨Watch.Le⟩

namespace Watch

theorem le_refl (watch : Watch) : watch ≤ watch := ⟨fun _ _ => id, fun _ _ => id, fun _ => id⟩

/-- Nothing is ruled out by the default. -/
theorem le_default (watch : Watch) : watch ≤ {} := ⟨fun _ _ _ => rfl, fun _ _ _ => rfl, fun _ _ => rfl⟩

/-- The watch under which programs may do anything but write to some objects. -/
def forbidding (P : Heap → ObjectRef → Prop) [∀ h o, Decidable (P h o)] : Watch where
  mayWrite h o := !decide (P h o)

variable {P : Heap → ObjectRef → Prop} [∀ h o, Decidable (P h o)]

theorem mayWrite_forbidding {h : Heap} {o : ObjectRef} :
    (forbidding P).mayWrite h o = true ↔ ¬ P h o := by
  rw [forbidding, Bool.not_eq_true', decide_eq_false_iff_not]

theorem le_forbidding {watch : Watch} (spares : ∀ h o, watch.mayWrite h o = true → ¬ P h o) :
    watch ≤ forbidding P :=
  ⟨fun h o write => mayWrite_forbidding.2 (spares h o write), fun _ _ _ => rfl, fun _ _ => rfl⟩

theorem SparesDescriptors.of_le {watch wider : Watch} (spares : wider.SparesDescriptors)
    (le : watch ≤ wider) : watch.SparesDescriptors :=
  fun h o write => spares h o (le.write h o write)

end Watch

/-- Each outcome of the first action is one of the second. -/
def Action.Below {σ α : Type} (x y : Action σ α) : Prop :=
  ∀ w outcome, x w = some outcome → y w = some outcome

namespace Action

variable {σ α β : Type}

theorem below_refl (x : Action σ α) : x.Below x := fun _ _ run => run

theorem below_bind {x y : Action σ α} {f g : α → Action σ β} (first : x.Below y)
    (rest : ∀ a, (f a).Below (g a)) : (x >>= f).Below (y >>= g) := by
  rintro w ⟨r, w''⟩ run
  rcases bind_inv run with ⟨e, failed, rfl⟩ | ⟨a, w', start, finish⟩
  · exact bind_of_error (first _ _ failed)
  · exact (bind_of_ok (first _ _ start)).trans (rest a _ _ finish)

theorem below_heap {f g : Heap → Action σ β} (rest : ∀ h, (f h).Below (g h)) :
    (heap >>= f).Below (heap >>= g) :=
  fun w outcome run => rest w.heap w outcome run

theorem below_attempt {x y : Action σ α} (below : x.Below y) : x.attempt.Below y.attempt := by
  rintro w outcome run
  obtain ⟨first, start, same⟩ := Option.map_eq_some_iff.1 run
  rw [attempt, below w first start]
  exact congrArg some same

end Action

namespace Setting

open ProtoClass.Action

variable {σ : Type} {s t : Setting σ} (le : s.watch ≤ t.watch)
include le

theorem below_write {α : Type} (o : ObjectRef) (u : Update α) (wrote : α → Bool) :
    (s.write o u wrote).Below (t.write o u wrote) := by
  intro w outcome run
  unfold write at run ⊢
  split at run
  · cases run
  · next permitted =>
    rw [if_neg]
    · exact run
    · simp only [Bool.and_eq_true, Bool.not_eq_true', not_and, Bool.not_eq_false] at permitted ⊢
      exact fun accepted => le.write _ _ (permitted accepted)

variable (calls : ∀ f rt this args, (s.call f rt this args).Below (t.call f rt this args))

/-- What widens calls widens all operations. -/
def belowCongruence : Congruence s t fun _ => True where
  rel x y := x.Below y
  pure _ := below_refl _
  fail _ := below_refl _
  ofExcept _ := below_refl _
  ofOption _ := below_refl _
  bind := below_bind
  heap := below_heap
  attempt := below_attempt
  update _ _ := below_refl _
  tryUpdate _ _ := below_refl _
  newRuntime _ _ := below_refl _
  write o u wrote _ _ _ := below_write le o u wrote
  call := calls

include calls

theorem below_perform (q : Request) : (s.perform q).Below (t.perform q) := by
  intro w outcome run
  obtain ⟨live, asked, served⟩ := perform_inv run
  have wider := (belowCongruence le calls).serve q (fun _ _ => trivial) w outcome served
  unfold perform
  rw [live, le.ask _ _ asked]
  exact wider

theorem below_run (p : Program σ) : (s.run p).Below (t.run p) := by
  induction p with
  | done outcome => exact fun _ _ run => run
  | inspect next ih =>
    intro w outcome run
    unfold Setting.run at run
    split at run
    · next shown => exact (run_inspect_apply (le.shown _ shown) next).trans (ih _ _ _ _ run)
    · cases run
  | store state next ih => exact fun w outcome run => ih _ _ run
  | newFunction name body next _ ih => exact fun w outcome run => ih _ _ _ run
  | ask q next ih =>
    rintro w ⟨r, w''⟩ run
    obtain ⟨answer, w', served, finish⟩ := run_ask_inv run
    exact (run_ask_apply (below_perform le calls q _ _ served) next).trans (ih _ _ _ finish)

end Setting

/-- A call with a result has the same one under a wider watch and with a greater bound. -/
theorem callWithin_below {σ : Type} {watch wider : Watch} (le : watch ≤ wider) {depth deeper : Nat}
    (bound : depth ≤ deeper) (f : FunctionRef) (rt : RuntimeRef) (this : Value) (args : List Value) :
    (callWithin (σ := σ) watch depth f rt this args).Below (callWithin wider deeper f rt this args) := by
  induction depth generalizing deeper f rt this args with
  | zero =>
    intro w outcome run
    cases run
  | succ depth ih =>
    obtain ⟨deeper, rfl⟩ : ∃ n, deeper = n + 1 := ⟨deeper - 1, by omega⟩
    have calls : ∀ f rt this args, ((Setting.within (σ := σ) watch depth).call f rt this args).Below
        ((Setting.within wider deeper).call f rt this args) :=
      fun f rt this args => ih (Nat.le_of_succ_le_succ bound) f rt this args
    intro w outcome run
    unfold callWithin at run ⊢
    split at run
    · next b _ =>
      exact (Setting.belowCongruence (s := Setting.within watch depth) (t := Setting.within wider deeper)
        le calls).runBuiltin b rt this args (fun _ _ => trivial) w outcome run
    · split at run
      · exact Setting.below_run (s := Setting.within watch depth) (t := Setting.within wider deeper)
          le calls _ w outcome run
      · cases run

/-- A request with an answer has the same one under a wider watch and with a greater bound. -/
theorem Setting.perform_below {σ : Type} {watch wider : Watch} (le : watch ≤ wider)
    {depth deeper : Nat} (bound : depth ≤ deeper) (q : Request) :
    ((Setting.within (σ := σ) watch depth).perform q).Below ((Setting.within wider deeper).perform q) :=
  Setting.below_perform (s := Setting.within watch depth) (t := Setting.within wider deeper) le
    (callWithin_below le bound) q

section Traces

variable {watch wider : Watch} (le : watch ≤ wider) {h h' : Heap}
include le

theorem Event.Allowed.mono {e : Event} (allowed : e.Allowed watch h) : e.Allowed wider h := by
  cases e with
  | set o name value => exact ⟨allowed.1, allowed.2.1, fun done => le.write h o (allowed.2.2 done)⟩
  | define o name value flags =>
    exact ⟨allowed.1, allowed.2.1, fun done => le.write h o (allowed.2.2 done)⟩
  | delete o name => exact ⟨allowed.1, fun done => le.write h o (allowed.2 done)⟩
  | install o properties =>
    exact ⟨allowed.1, allowed.2.1, fun done => le.write h o (allowed.2.2 done)⟩
  | register r c => exact ⟨allowed.1, allowed.2.1, le.ask h _ allowed.2.2⟩
  | describe c cell =>
    have describes : Describes watch h c cell := allowed
    exact { describes with filled := fun spares => describes.filled (spares.of_le le) }
  | _ => exact allowed

theorem Trace.mono {es : List Event} (trace : Trace watch h es h') : Trace wider h es h' := by
  induction trace with
  | nil => exact .nil _
  | cons first _ ih => exact .cons (Event.Allowed.mono le first) ih

theorem Heap.Reached.mono (reached : h.Reached watch) : h.Reached wider := by
  obtain ⟨es, trace⟩ := reached
  exact ⟨es, trace.mono le⟩

theorem Passage.mono (passage : Passage watch h h') : Passage wider h h' := by
  obtain ⟨es, trace, new⟩ := passage
  exact ⟨es, trace.mono le, new⟩

theorem Heap.Built.mono {rt : RuntimeRef} (built : h.Built watch rt) : h.Built wider rt := by
  obtain ⟨options, h₀, reached, valid, made, since⟩ := built
  exact ⟨options, h₀, reached.mono le, valid, made, since.mono le⟩

theorem Heap.Settled.mono (settled : h.Settled watch) : h.Settled wider :=
  ⟨settled.reached.mono le, fun rt live => (settled.built rt live).mono le, settled.unbound⟩

end Traces

/-- What holds wherever events lead holds at every moment of a run, and wherever else a program can be,
under any watch. -/
theorem everywhere_of_reached {P : ∀ τ : Type, World τ → Prop}
    (holds : ∀ (τ : Type) (w : World τ), w.heap.Reached {} → P τ w) (watch : Watch) (depth : Nat)
    {σ : Type} (p : Program σ) (state : σ) (count : Nat) :
    (∀ m ∈ p.moments watch depth state count, P σ m.toWorld) ∧
      ∀ (τ : Type) (w : World τ), Reached watch w → P τ w := by
  have everywhere : ∀ (τ : Type) (w : World τ), Reached watch w → P τ w :=
    fun τ w reached => holds τ w (Heap.Reached.mono (Watch.le_default watch) reached)
  exact ⟨fun m member => everywhere σ m.toWorld (Program.sound_of_mem_moments member).reached,
    everywhere⟩

end ProtoClass
