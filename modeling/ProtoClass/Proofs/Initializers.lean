import ProtoClass.Proofs.Outcomes

set_option autoImplicit false

namespace ProtoClass

/-- A call of a function, with the heap that it found. -/
structure CallMade where
  function : FunctionRef
  runtime : RuntimeRef
  this : Value
  args : List Value
  heap : Heap

/-- A way of calling functions that runs none of them, but lists the calls. -/
def Setting.listing (outcome : Except Error Value) : Setting (List CallMade) where
  call function runtime this args := fun w =>
    some (outcome, { w with state := w.state ++ [⟨function, runtime, this, args, w.heap⟩] })

/-- How a definition calls the static initializer of its class. -/
structure CallsInitializer {σ : Type} (w : World σ) (rt : RuntimeRef) (d : Definition)
    (f : FunctionRef) (p : ClassRef) (built : Heap) : Prop where
  /-- The initializer finds the class as it will be given out. -/
  made : Made w.heap rt d p w.heap.classes.fresh built
  /-- Its call is all that is left to do, -/
  called : ∀ s : Setting σ, s.watch = {} →
    s.perform (.defineClass rt d) w =
      (s.call f rt (.klass w.heap.classes.fresh) [] >>= fun _ => pure w.heap.classes.fresh)
        { w with heap := built }
  /-- and the only call that is made. -/
  once : ∀ outcome bodies calls,
    (Setting.listing outcome).perform (.defineClass rt d) ⟨w.heap, bodies, calls⟩ =
      some (outcome.map fun _ => w.heap.classes.fresh,
        ⟨built, bodies, calls ++ [⟨f, rt, .klass w.heap.classes.fresh, [], built⟩]⟩)
  /-- The class is given out whatever the initializer has registered, and all that it did is kept. -/
  given : ∀ n c w', (Setting.within {} n).perform (.defineClass rt d) w = some (.ok c, w') →
    c = w.heap.classes.fresh ∧
      (∃ answer, callWithin {} n f rt (.klass c) [] { w with heap := built } =
        some (.ok answer, w')) ∧
      Remains built rt d p c w'.heap

/-- A definition with a static initializer, whose superclass is registered, calls it. -/
def InitializersCalled {σ : Type} (w : World σ) : Prop :=
  ∀ rt d f, w.heap.runtimes.isLive rt = true → w.heap.hasDefinition d = true →
    d.initializer = some f →
    (d.superclass = "" ∨ (w.heap.classNamed rt d.superclass).isSome = true) →
    ∃ p built, CallsInitializer w rt d f p built

theorem initializersCalled_of_reached {σ : Type} {w : World σ} (reached : w.heap.Reached {}) :
    InitializersCalled w := by
  intro rt d f runtime there initializer known
  obtain ⟨p, resolved⟩ := Registry.resolve_isOk d.name (w.heap.runtime rt).root known
  have allowed : Event.Allowed {} w.heap (.klass rt d p) := ⟨runtime, there, resolved⟩
  have asked : Request.isLive w.heap (.defineClass rt d) = true := by
    rw [Request.isLive, runtime, there]
    rfl
  have called : ∀ s : Setting σ, s.watch = {} → s.perform (.defineClass rt d) w =
      (s.call f rt (.klass w.heap.classes.fresh) [] >>= fun _ => pure w.heap.classes.fresh)
        { w with heap := (Update.buildClass rt d p w.heap).2 } := by
    intro s free
    rw [Setting.perform_defineClass asked (by rw [free]) resolved,
      Setting.finishClass_of_some initializer]
  refine ⟨p, (Update.buildClass rt d p w.heap).2, Update.made_buildClass reached.closed allowed, called,
    fun outcome bodies calls => ?_, fun n c w' run => ?_⟩
  · rw [Setting.perform_defineClass (w := ⟨w.heap, bodies, calls⟩) asked rfl resolved,
      Setting.finishClass_of_some initializer]
    cases outcome <;> rfl
  · rw [called _ rfl] at run
    rcases Action.bind_inv run with ⟨e, _, wrong⟩ | ⟨answer, w₁, ended, finished⟩
    · cases wrong
    · cases finished
      exact ⟨rfl, ⟨answer, ended⟩, remains_of_called reached allowed initializer ended⟩

/-- At every moment of a run, and wherever else a program can be, static initializers are called once,
with the finished class. -/
theorem initializers_are_called {σ : Type} (watch : Watch) (depth : Nat) (p : Program σ) (state : σ)
    (count : Nat) :
    (∀ m ∈ p.moments watch depth state count, InitializersCalled m.toWorld) ∧
      ∀ (τ : Type) (w : World τ), Reached watch w → InitializersCalled w :=
  everywhere_of_reached (fun _ _ => initializersCalled_of_reached) watch depth p state count

/-- Declares a static under the name of the text that every class makes. -/
def shadowed : Definition := { name := "A", statics := [("toString", .integer 5)] }

/-- Defines a class whose static initializer keeps what it finds under that name, and defines another
class of the same name. -/
def initializing : Program (Option Value) := Script.toProgram do
  let rt ← Script.ask (.newRuntime {})
  let d ← Script.initializer shadowed fun rt this _ => Script.toProgram do
    let h ← Script.heap
    Script.setState (this.klass?.bind fun c => h.getOwn (h.klass c).statics "toString")
    return .klass (← Script.ask (.defineClass rt { name := "A" }))
  return .klass (← Script.ask (.defineClass rt d))

/-- A class that extends its own name is below the class that had the name. -/
theorem initializing_calls :
    ∃ m ∈ initializing.moments {} 3 none 30, ∃ p built, m.heap.classNamed ⟨0⟩ "A" = some p ∧
      CallsInitializer m.toWorld ⟨0⟩
        { name := "A", superclass := "A", initializer := some ⟨16⟩ } ⟨16⟩ p built := by
  have ends : (initializing.moments {} 3 none 30).any (fun m =>
      m.heap.runtimes.isLive ⟨0⟩ && m.heap.functions.isLive ⟨16⟩ &&
      (m.heap.classNamed ⟨0⟩ "A").isSome) = true := by
    decide +kernel
  obtain ⟨m, member, facts⟩ := List.any_eq_true.1 ends
  simp only [Bool.and_eq_true] at facts
  obtain ⟨⟨runtime, function⟩, registered⟩ := facts
  have there : m.heap.hasDefinition
      { name := "A", superclass := "A", initializer := some ⟨16⟩ } = true := by
    rw [Heap.hasDefinition, Option.all_some, function]
    rfl
  obtain ⟨p, built, calls⟩ := (initializers_are_called {} 3 initializing none 30).1 m member ⟨0⟩ _ _
    runtime there rfl (Or.inr registered)
  have parent := calls.made.parent
  rw [Heap.NamesClass, if_neg (by decide)] at parent
  exact ⟨m, member, p, built, parent, calls⟩

/-- Under the name of its static the initializer finds the function that makes the text of the class. -/
theorem initializing_loses_static :
    shadowed.statics.lookup "toString" = some (.integer 5) ∧
      ∃ m ∈ initializing.moments {} 3 none 30, ∃ f, m.state = some (.function f) ∧
        (m.heap.function f).code = .builtin (.classToString "A") := by
  have ends : (initializing.moments {} 3 none 30).any (fun m =>
      decide (m.state = some (.function ⟨17⟩)) &&
      decide ((m.heap.function ⟨17⟩).code = .builtin (.classToString "A"))) = true := by
    decide +kernel
  obtain ⟨m, member, facts⟩ := List.any_eq_true.1 ends
  simp only [Bool.and_eq_true, decide_eq_true_iff] at facts
  exact ⟨by decide, m, member, ⟨17⟩, facts.1, facts.2⟩

end ProtoClass
