import ProtoClass.Run.Builtin

set_option autoImplicit false

/- `Setting.perform` serves a request and `Setting.run` runs a program, both relative to a way of
calling functions. `callWithin` ties the knot: functions are called with the bodies that the world
has for them, nested at most as deep as the given bound. A run that would nest deeper has no result;
one that has a result has the same for every greater bound. -/
namespace ProtoClass

namespace Setting

variable {σ : Type} (s : Setting σ)

/-- Serves a request whose references are live. -/
def serve : (q : Request) → Action σ q.Answer
  | .newObject prototype entries => Action.update (Update.newObjectOf prototype entries)
  | .newString units => Action.update (Update.newString units)
  | .newCounter => Action.update Update.newCounter
  | .newRegistry => Action.update Update.newRegistry
  | .newRuntime options => Action.tryUpdate (Update.newRuntime options)
  | .set o name value => s.set o name value
  | .define o name value flags => s.define o name value flags
  | .delete o name => s.delete o name
  | .install o properties => s.install o properties
  | .identityOf counter x => Action.tryUpdate (Update.identityOf counter x)
  | .hashOf t => Action.update (Update.hashOf t)
  | .register registry c => Action.update (Update.register registry c)
  | .registerHost rt name create => Action.update (Update.registerHost rt name create)
  | .installOn rt name properties => s.installOn rt name properties
  | .installStaticOn rt name properties => s.installStaticOn rt name properties
  | .installSocketConnect rt => s.installSocketConnect rt
  | .constructHost rt name args => s.constructHost rt name args
  | .call f rt this args => s.call f rt this args
  | .invoke rt receiver name args => s.invoke rt receiver name args
  | .hashCode rt receiver => s.hashCode rt receiver
  | .equals rt receiver other => s.equals rt receiver other
  | .display rt receiver => s.display rt receiver
  | .defineClass rt definition => s.defineClass rt definition
  | .defineFlat rt name superclass entries annotations =>
    s.defineFlat rt name superclass entries annotations
  | .construct rt c args => s.construct rt c args
  | .constructNamed rt name args => s.constructNamed rt name args
  | .descriptorOf rt c => s.descriptorOf rt c
  | .descriptorNamed rt name => s.descriptorNamed rt name
  | .getClass rt value => s.getClass rt value
  | .isInstance rt d value => s.isInstance rt d value

/-- Serves a request; one that names something not there, or that the watch rules out, has no
result. -/
def perform (q : Request) : Action σ q.Answer := fun w =>
  if q.isLive w.heap && s.watch.mayAsk w.heap q then s.serve q w else none

/-- Runs a program to its end. -/
def run : Program σ → Action σ Value
  | .done outcome => fun w =>
    match outcome with
    | .ok v => if w.heap.hasValue v then some (.ok v, w) else none
    | .error e => some (.error e, w)
  | .inspect next => fun w =>
    if s.watch.mayShow w.heap then run (next w.heap w.state) w else none
  | .store state next => fun w => run next { w with state }
  | .newFunction name body next => fun w =>
    let (f, heap) := Update.newFunction name (.program w.bodies.size) w.heap
    run (next f) { w with heap, bodies := w.bodies.push body }
  | .ask request next => fun w =>
    match s.perform request w with
    | none => none
    | some (r, w) => run (next r) w

theorem perform_apply {s : Setting σ} {w : World σ} {q : Request} (live : q.isLive w.heap = true)
    (asked : s.watch.mayAsk w.heap q = true) : s.perform q w = s.serve q w :=
  if_pos (Bool.and_eq_true_iff.2 ⟨live, asked⟩)

/-- A request that is performed names only things that are there, and the watch permits it. -/
theorem perform_inv {s : Setting σ} {q : Request} {w : World σ}
    {outcome : Except Error q.Answer × World σ} (run : s.perform q w = some outcome) :
    q.isLive w.heap = true ∧ s.watch.mayAsk w.heap q = true ∧ s.serve q w = some outcome := by
  unfold perform at run
  split at run
  · next permitted =>
    rw [Bool.and_eq_true] at permitted
    exact ⟨permitted.1, permitted.2, run⟩
  · cases run

/-- A finished program changes nothing and gives its outcome, which is there. -/
theorem run_done_inv {s : Setting σ} {outcome r : Except Error Value} {w w' : World σ}
    (done : s.run (.done outcome) w = some (r, w')) :
    r = outcome ∧ w' = w ∧ ∀ v, outcome = .ok v → w.heap.hasValue v = true := by
  cases outcome with
  | error e =>
    cases done
    refine ⟨rfl, rfl, fun v wrong => ?_⟩
    cases wrong
  | ok v =>
    unfold run at done
    dsimp only at done
    split at done
    · next live =>
      cases done
      refine ⟨rfl, rfl, ?_⟩
      rintro v ⟨⟩
      exact live
    · cases done

theorem run_done_apply (s : Setting σ) {outcome : Except Error Value} {w : World σ}
    (live : ∀ v, outcome = .ok v → w.heap.hasValue v = true) :
    s.run (.done outcome) w = some (outcome, w) := by
  cases outcome with
  | error e => rfl
  | ok v => exact if_pos (live v rfl)

theorem run_inspect_apply {s : Setting σ} {w : World σ} (shown : s.watch.mayShow w.heap = true)
    (next : Heap → σ → Program σ) : s.run (.inspect next) w = s.run (next w.heap w.state) w :=
  if_pos shown

theorem run_store_apply (state : σ) (next : Program σ) (w : World σ) :
    s.run (.store state next) w = s.run next { w with state } := rfl

theorem run_newFunction_apply (name : String) (body : Body σ) (next : FunctionRef → Program σ)
    (w : World σ) :
    s.run (.newFunction name body next) w =
      s.run (next (Update.newFunction name (.program w.bodies.size) w.heap).1)
        { w with
          heap := (Update.newFunction name (.program w.bodies.size) w.heap).2
          bodies := w.bodies.push body } := rfl

theorem run_ask_apply {s : Setting σ} {w w' : World σ} {q : Request} {r : Except Error q.Answer}
    (served : s.perform q w = some (r, w')) (next : Except Error q.Answer → Program σ) :
    s.run (.ask q next) w = s.run (next r) w' := by
  simp only [run, served]

theorem run_ask_inv {s : Setting σ} {q : Request} {next : Except Error q.Answer → Program σ}
    {w w'' : World σ} {outcome : Except Error Value}
    (done : s.run (.ask q next) w = some (outcome, w'')) :
    ∃ r w', s.perform q w = some (r, w') ∧ s.run (next r) w' = some (outcome, w'') := by
  unfold run at done
  cases served : s.perform q w with
  | none =>
    rw [served] at done
    cases done
  | some first =>
    obtain ⟨r, w'⟩ := first
    rw [served] at done
    exact ⟨r, w', rfl, done⟩

end Setting

/-- Calls a function, with calls nested at most `depth` deep. -/
def callWithin {σ : Type} (watch : Watch) :
    Nat → FunctionRef → RuntimeRef → Value → List Value → Action σ Value
  | 0 => fun _ _ _ _ => Action.stuck
  | depth + 1 => fun f rt this args w =>
    let inner : Setting σ := ⟨callWithin watch depth, watch⟩
    match (w.heap.function f).code with
    | .builtin b => inner.runBuiltin b rt this args w
    | .program i =>
      match w.bodies[i]? with
      | some body => inner.run (body rt this args) w
      | none => none

/-- The setting in which programs run, with calls nested at most `depth` deep. -/
def Setting.within {σ : Type} (watch : Watch) (depth : Nat) : Setting σ :=
  ⟨callWithin watch depth, watch⟩

/-- Runs a program with calls nested at most `depth` deep and nothing ruled out. -/
def Program.run {σ : Type} (depth : Nat) (p : Program σ) (w : World σ) :
    Option (Except Error Value × World σ) :=
  (Setting.within {} depth).run p w

end ProtoClass
