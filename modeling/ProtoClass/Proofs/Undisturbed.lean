import ProtoClass.Proofs.Defining
import ProtoClass.Proofs.Permanence

set_option autoImplicit false

/- A class is built from new things alone. It delegates to old ones, but writes nothing to them; so
whatever was there before is as it was, and whatever was found before is found again, through every
runtime. What changes is one name of one registry. -/
namespace ProtoClass

/-- Everything that was there has the very cell that it had; so have all strings, descriptors, counters
and runtimes, of which there are no more than before. -/
structure Heap.KeepsCells (h h' : Heap) : Prop where
  object : ∀ o, h.objects.isLive o = true → h'.object o = h.object o
  function : ∀ f, h.functions.isLive f = true → h'.function f = h.function f
  klass : ∀ c, h.classes.isLive c = true → h'.klass c = h.klass c
  strings : h'.strings = h.strings
  descriptors : h'.descriptors = h.descriptors
  counters : h'.counters = h.counters
  runtimes : h'.runtimes = h.runtimes

namespace Heap.KeepsCells

theorem buildClass (h : Heap) (rt : RuntimeRef) (d : Definition) (p : ClassRef) :
    h.KeepsCells (Update.buildClass rt d p h).2 := by
  have frame := Event.frame (.klass rt d p) h
  refine ⟨fun o live => ?_, fun f live => ?_, fun c live => ?_, frame.strings (by simp [Event.footprint]),
    frame.descriptors (by simp [Event.footprint]), frame.counters (by simp [Event.footprint]),
    frame.runtimes (by simp [Event.footprint])⟩
  · -- each of the three new objects is younger than an old one
    have first := Arena.isLive_add_of_isLive live
    rw [Update.buildClass_apply, Heap.object,
      Arena.get_add_of_isLive (Arena.isLive_add_of_isLive (first _) _),
      Arena.get_add_of_isLive (first _), Arena.get_add_of_isLive live, Heap.object]
  · rw [Update.buildClass_apply, Heap.function, Arena.get_add_of_isLive live, Heap.function]
  · rw [Update.buildClass_apply, Heap.klass, Arena.get_add_of_isLive live, Heap.klass]

variable {h h' : Heap} (kept : h.KeepsCells h') (closed : h.Closed)
include kept closed

theorem memberSource {rt : RuntimeRef} (runtime : h.runtimes.isLive rt = true) {v : Value}
    (live : h.hasValue v = true) :
    h'.memberSource rt v = h.memberSource rt v ∧ h.objects.isLive (h.memberSource rt v) = true := by
  have root : h'.rootPrototype rt = h.rootPrototype rt := by
    rw [Heap.rootPrototype, Heap.runtime, kept.runtimes, ← Heap.runtime,
      kept.klass _ (closed.root_live runtime), Heap.rootPrototype]
  cases v with
  | object o => exact ⟨rfl, live⟩
  | klass c =>
    exact ⟨congrArg ClassCell.statics (kept.klass c live), (closed.klass live).statics⟩
  | string s =>
    have hosted : h'.hostNamed rt "String" = h.hostNamed rt "String" := by
      rw [hostNamed, Heap.runtime, kept.runtimes, ← Heap.runtime, hostNamed]
    rw [Heap.memberSource, Heap.memberSource, hosted, root]
    cases found : h.hostNamed rt "String" with
    | none => exact ⟨rfl, closed.rootPrototype_live runtime⟩
    | some host => exact ⟨rfl, (closed.host_closed runtime found).prototype⟩
  | _ => exact ⟨root, closed.rootPrototype_live runtime⟩

/-- Whatever was there is looked up with the same result, whatever the name. -/
theorem lookup (closed' : h'.Closed) (extended : h.Extends h') {rt : RuntimeRef}
    (runtime : h.runtimes.isLive rt = true) {v : Value} (live : h.hasValue v = true)
    (name : String) : h'.lookup rt v name = h.lookup rt v name := by
  obtain ⟨source, there⟩ := kept.memberSource closed runtime live
  rw [Heap.lookup, source, Heap.lookup, Heap.get, Heap.get]
  refine closed.find_later extended closed' there fun p above => ?_
  rw [getOwn, ownProperty, kept.object p (closed.chain_live there p above), getOwn, ownProperty]

end Heap.KeepsCells

/-- What a definition of a class under a name leaves as it was. -/
structure Undisturbed (h : Heap) (rt : RuntimeRef) (name : String) (c : ClassRef) (h' : Heap) : Prop
    extends h.KeepsCells h' where
  new : h.hasValue (.klass c) = false
  there : ∀ v, h.hasValue v = true → h'.hasValue v = true
  registered : h'.classNamed rt name = some c
  unnamed : ∀ other, other ≠ name → h'.classNamed rt other = h.classNamed rt other
  /-- The name comes last, but only where it is new to the registry. -/
  names : (h'.registryOf rt).names =
    if (h.classNamed rt name).isSome then (h.registryOf rt).names
    else (h.registryOf rt).names ++ [name]
  registries : ∀ r, r ≠ (h.runtime rt).registry → h'.registry r = h.registry r
  lookup : ∀ rt' v member, h.runtimes.isLive rt' = true → h.hasValue v = true →
    h'.lookup rt' v member = h.lookup rt' v member

theorem undisturbed_buildClass {h : Heap} (closed : h.Closed) {rt : RuntimeRef} {d : Definition}
    {p : ClassRef} (allowed : Event.Allowed {} h (.klass rt d p)) :
    Undisturbed h rt d.name h.classes.fresh (Update.buildClass rt d p h).2 := by
  have kept := Heap.KeepsCells.buildClass h rt d p
  have extended := h.extends_buildClass rt d p
  have closed' : (Update.buildClass rt d p h).2.Closed := Event.closed closed allowed
  have registry := (closed.runtime allowed.1).registry
  refine { kept with
    new := Arena.isLive_fresh h.classes
    there := fun v live => extended.hasValue live
    registered := by rw [Update.classNamed_buildClass registry, if_pos rfl]
    unnamed := fun other apart => by rw [Update.classNamed_buildClass registry, if_neg apart]
    names := ?_
    registries := fun r apart => ?_
    lookup := fun rt' v member runtime live =>
      kept.lookup closed closed' extended runtime live member }
  · rw [Update.registryOf_buildClass registry, Registry.names_register]
    rfl
  · rw [Update.buildClass_apply, Heap.registry, Arena.get_modify registry, if_neg apart,
      Heap.registry]

/-- A definition without a static initializer that succeeds leaves all that was there as it was. -/
def DefinitionsDisturbNothing {σ : Type} (w : World σ) : Prop :=
  ∀ (s : Setting σ) rt d c w', d.initializer = none →
    s.perform (.defineClass rt d) w = some (.ok c, w') →
    w' = { w with heap := w'.heap } ∧ Undisturbed w.heap rt d.name c w'.heap

theorem definitionsDisturbNothing_of_closed {σ : Type} {w : World σ} (closed : w.heap.Closed) :
    DefinitionsDisturbNothing w := by
  intro s rt d c w' plain run
  obtain ⟨live, _, served⟩ := Setting.perform_inv run
  rw [Request.isLive, Bool.and_eq_true] at live
  change s.defineClass rt d w = some (.ok c, w') at served
  cases resolved : (w.heap.registryOf rt).resolve d.name d.superclass (w.heap.runtime rt).root with
  | error e =>
    rw [Setting.defineClass_of_unresolved resolved] at served
    cases served
  | ok p =>
    rw [Setting.defineClass_of_resolved resolved, Setting.finishClass_of_none plain] at served
    cases served
    exact ⟨rfl, undisturbed_buildClass closed ⟨live.1, live.2, resolved⟩⟩

/-- At every moment of a run, and wherever else a program can be, the definition of a class disturbs
nothing that exists. -/
theorem definitions_disturb_nothing {σ : Type} (watch : Watch) (depth : Nat) (p : Program σ) (state : σ)
    (count : Nat) :
    (∀ m ∈ p.moments watch depth state count, DefinitionsDisturbNothing m.toWorld) ∧
      ∀ (τ : Type) (w : World τ), Reached watch w → DefinitionsDisturbNothing w :=
  everywhere_of_reached (fun _ _ reached => definitionsDisturbNothing_of_closed reached.closed) watch
    depth p state count

/-- Defines a class and one that extends it. -/
def extending : Program Unit := Script.toProgram do
  let rt ← Script.ask (.newRuntime {})
  let _ ← Script.ask (.defineClass rt { name := "A", members := [("x", .integer 1)] })
  return .klass (← Script.ask (.defineClass rt { name := "B", superclass := "A" }))

/-- A class that takes the name of its superclass is not found by what the old classes made. -/
theorem extending_is_undisturbed :
    ∃ m ∈ extending.moments {} 1 () 20, ∃ b w', m.heap.classNamed ⟨0⟩ "B" = some b ∧
      (Setting.within {} 1).perform
        (.defineClass ⟨0⟩ { name := "A", superclass := "A", members := [("x", .null)] })
        m.toWorld = some (.ok m.heap.classes.fresh, w') ∧
      Undisturbed m.heap ⟨0⟩ "A" m.heap.classes.fresh w'.heap ∧
      w'.heap.lookup ⟨0⟩ (.object (m.heap.klass b).prototype) "x" = some (.integer 1) := by
  have ends : (extending.moments {} 1 () 20).any (fun m =>
      m.heap.runtimes.isLive ⟨0⟩ && (m.heap.classNamed ⟨0⟩ "A").isSome &&
      decide (m.heap.classNamed ⟨0⟩ "B" = some ⟨3⟩) &&
      m.heap.objects.isLive (m.heap.klass ⟨3⟩).prototype &&
      decide (m.heap.lookup ⟨0⟩ (.object (m.heap.klass ⟨3⟩).prototype) "x" =
        some (.integer 1))) = true := by
    decide +kernel
  obtain ⟨m, member, facts⟩ := List.any_eq_true.1 ends
  simp only [Bool.and_eq_true, decide_eq_true_iff] at facts
  obtain ⟨⟨⟨⟨runtime, known⟩, below⟩, live⟩, found⟩ := facts
  obtain ⟨p, registered⟩ := Option.isSome_iff_exists.1 known
  have resolved : (m.heap.registryOf ⟨0⟩).resolve "A" "A" (m.heap.runtime ⟨0⟩).root = .ok p := by
    rw [Registry.resolve, if_neg (by decide)]
    rw [Heap.classNamed] at registered
    rw [registered]
  have asked : Request.isLive m.heap (.defineClass ⟨0⟩
      { name := "A", superclass := "A", members := [("x", .null)] }) = true := by
    rw [Request.isLive, runtime]
    rfl
  have run : (Setting.within {} 1).perform (.defineClass ⟨0⟩
      { name := "A", superclass := "A", members := [("x", .null)] }) m.toWorld =
      some (.ok m.heap.classes.fresh, { m.toWorld with heap := (Update.buildClass ⟨0⟩
        { name := "A", superclass := "A", members := [("x", .null)] } p m.heap).2 }) := by
    rw [Setting.perform_defineClass asked rfl resolved, Setting.finishClass_of_none rfl]
  have undisturbed := ((definitions_disturb_nothing {} 1 extending () 20).1 m member _ ⟨0⟩ _ _ _ rfl
    run).2
  exact ⟨m, member, ⟨3⟩, _, below, run, undisturbed,
    (undisturbed.lookup ⟨0⟩ (.object (m.heap.klass ⟨3⟩).prototype) "x" runtime live).trans found⟩

end ProtoClass
