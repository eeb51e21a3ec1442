import Mathlib.Logic.Relation
import ProtoClass.Proofs.Links

set_option autoImplicit false

namespace ProtoClass

namespace Heap

/-- The second object is the prototype of the first one. -/
def DelegatesTo (h : Heap) (o p : ObjectRef) : Prop := (h.object o).prototype = some p

/-- The second class is the superclass of the first one. -/
def Extending (h : Heap) (c s : ClassRef) : Prop := (h.klass c).superclass = some s

end Heap

/-- What a maintainer means by the graph of classes being sound. -/
structure ClassGraph (h : Heap) : Prop where
  /-- Delegation never comes back to where it started. -/
  acyclic : ∀ o, ¬ Relation.TransGen h.DelegatesTo o o
  bound : ∀ c, h.classes.isLive c = true → (h.object (h.klass c).prototype).boundClass = some c
  bound_only : ∀ o c, h.objects.isLive o = true → (h.object o).boundClass = some c →
    (h.klass c).prototype = o
  distinct : ∀ c d, h.classes.isLive c = true → h.classes.isLive d = true →
    (h.klass c).prototype = (h.klass d).prototype → c = d
  /-- A prototype delegates to that of the superclass, and to nothing without one. -/
  parent : ∀ c, h.classes.isLive c = true →
    (h.object (h.klass c).prototype).prototype =
      (h.klass c).superclass.map fun s => (h.klass s).prototype
  /-- One runtime defined the class. -/
  definer : ∀ c, h.classes.isLive c = true →
    ∃ rt, (h.runtimes.isLive rt = true ∧ h.DefinedBy c rt) ∧
      ∀ other, h.runtimes.isLive other = true → h.DefinedBy c other → other = rt
  root : ∀ c rt, h.classes.isLive c = true → h.runtimes.isLive rt = true → h.DefinedBy c rt →
    ((h.klass c).superclass = none ↔ c = (h.runtime rt).root)
  /-- The superclasses lead to the root class of the runtime that defined the class. -/
  rooted : ∀ c rt, h.classes.isLive c = true → h.runtimes.isLive rt = true → h.DefinedBy c rt →
    Relation.ReflTransGen h.Extending c (h.runtime rt).root

/-- Does a watch rule out that a program registers a class in the registry of a runtime by other
means than a definition? -/
def Watch.DefinesOnly (watch : Watch) : Prop :=
  ∀ h r c, watch.mayAsk h (.register r c) = true →
    ∀ rt, h.runtimes.isLive rt = true → (h.runtime rt).registry ≠ r

/-- Each class was defined by a runtime, which defined its superclasses too. -/
structure Rooted (h : Heap) : Prop where
  definer : ∀ c, h.classes.isLive c = true → ∃ rt, h.runtimes.isLive rt = true ∧
    h.DefinedBy c rt ∧ ((h.klass c).superclass = none → c = (h.runtime rt).root) ∧
    ∀ s, (h.klass c).superclass = some s → h.DefinedBy s rt
  root : ∀ rt, h.runtimes.isLive rt = true →
    h.DefinedBy (h.runtime rt).root rt ∧ (h.klass (h.runtime rt).root).superclass = none
  registered : ∀ rt name c, h.runtimes.isLive rt = true → h.classNamed rt name = some c →
    h.DefinedBy c rt
  /-- Runtimes share neither root prototypes nor registries. -/
  runtimes : ∀ rt other, h.runtimes.isLive rt = true → h.runtimes.isLive other = true →
    h.rootPrototype rt = h.rootPrototype other ∨
      (h.runtime rt).registry = (h.runtime other).registry → rt = other

theorem rooted_empty : Rooted {} := by
  have dead : ∀ {k : Kind} {α : Type} {r : Ref k}, ¬ ({} : Arena k α).isLive r = true := by
    intro k α r
    rw [Arena.isLive_iff]
    exact Nat.not_lt_zero _
  exact ⟨fun c live => absurd live dead, fun rt live => absurd live dead,
    fun rt _ _ live => absurd live dead, fun rt _ live => absurd live dead⟩

section Kept

variable {h h' : Heap} (rooted : Rooted h) (closed : h.Closed) (extended : h.Extends h')
include rooted closed extended

theorem Rooted.definer_kept {c : ClassRef} (live : h.classes.isLive c = true) :
    ∃ rt, h'.runtimes.isLive rt = true ∧ h'.DefinedBy c rt ∧
      ((h'.klass c).superclass = none → c = (h'.runtime rt).root) ∧
      ∀ s, (h'.klass c).superclass = some s → h'.DefinedBy s rt := by
  obtain ⟨rt, runtime, defined, top, parents⟩ := rooted.definer c live
  refine ⟨rt, extended.runtimes.isLive runtime, defined.later extended closed live runtime, ?_, ?_⟩
  · rw [(extended.klass live).superclass, (extended.runtime runtime).root]
    exact top
  · intro s link
    rw [(extended.klass live).superclass] at link
    exact (parents s link).later extended closed (closed.superclass_older link).2 runtime

theorem Rooted.root_kept {rt : RuntimeRef} (live : h.runtimes.isLive rt = true) :
    h'.DefinedBy (h'.runtime rt).root rt ∧ (h'.klass (h'.runtime rt).root).superclass = none := by
  have there := closed.root_live live
  obtain ⟨defined, top⟩ := rooted.root rt live
  rw [(extended.runtime live).root, (extended.klass there).superclass]
  exact ⟨defined.later extended closed there live, top⟩

theorem Rooted.registered_kept {rt : RuntimeRef} {name : String} {c : ClassRef}
    (live : h.runtimes.isLive rt = true) (registered : h.classNamed rt name = some c) :
    h'.DefinedBy c rt :=
  (rooted.registered rt name c live registered).later extended closed
    (closed.classNamed_live live registered) live

theorem Rooted.runtimes_kept {rt other : RuntimeRef} (live : h.runtimes.isLive rt = true)
    (live' : h.runtimes.isLive other = true)
    (shared : h'.rootPrototype rt = h'.rootPrototype other ∨
      (h'.runtime rt).registry = (h'.runtime other).registry) : rt = other := by
  rw [extended.rootPrototype closed live, extended.rootPrototype closed live',
    (extended.runtime live).registry, (extended.runtime live').registry] at shared
  exact rooted.runtimes rt other live live' shared

end Kept

/-- Only the registration of a class and the building of one change the registry of a runtime. -/
theorem Event.registry_eq {watch : Watch} (definesOnly : watch.DefinesOnly) {h : Heap} {e : Event}
    (closed : h.Closed) (allowed : e.Allowed watch h) (other : ¬ e.AddsClass) {rt : RuntimeRef}
    (live : h.runtimes.isLive rt = true) :
    (e.apply h).registry (h.runtime rt).registry = h.registry (h.runtime rt).registry := by
  cases e with
  | klass | openRuntime => exact absurd trivial other
  | registry => exact Arena.get_add_of_isLive (closed.runtime live).registry _
  | register r c =>
    have apart := definesOnly h r c allowed.2.2 rt live
    rw [apply, Update.register_apply, Heap.registry, Arena.get_modify allowed.1, if_neg apart,
      Heap.registry]
  | _ => rw [Heap.registry, (frame _ h).registries (by simp [footprint]), Heap.registry]

theorem Rooted.resolved {h : Heap} (rooted : Rooted h) {rt : RuntimeRef}
    (live : h.runtimes.isLive rt = true) {name superclass : String} {s : ClassRef}
    (resolved : (h.registryOf rt).resolve name superclass (h.runtime rt).root = .ok s) :
    h.DefinedBy s rt := by
  unfold Registry.resolve at resolved
  split at resolved
  · cases resolved
    exact (rooted.root rt live).1
  · split at resolved
    · next registered =>
      cases resolved
      exact rooted.registered rt _ _ live registered
    · cases resolved

theorem Rooted.buildClass {watch : Watch} {h : Heap} (rooted : Rooted h) (closed : h.Closed)
    {rt : RuntimeRef} {d : Definition} {s : ClassRef}
    (allowed : Event.Allowed watch h (.klass rt d s)) :
    Rooted (Update.buildClass rt d s h).2 := by
  have extended : h.Extends (Update.buildClass rt d s h).2 := Event.extends allowed
  obtain ⟨runtime, _, resolved⟩ := allowed
  have superclass := closed.resolve_live runtime resolved
  have new := Update.buildClass_class rt d s h
  have sameRuntimes : (Update.buildClass rt d s h).2.runtimes = h.runtimes := by
    rw [Update.buildClass_apply]
  have defined := closed.definedBy_buildClass runtime extended
  refine ⟨?_, ?_, ?_, ?_⟩
  · intro c live
    rcases Update.isLive_buildClass live with old | rfl
    · exact rooted.definer_kept closed extended old
    · refine ⟨rt, extended.runtimes.isLive runtime, defined, ?_, ?_⟩
      · rw [new]
        intro top
        cases top
      · rw [new]
        rintro p ⟨⟩
        exact (rooted.resolved runtime resolved).later extended closed superclass runtime
  · intro rt' live
    rw [sameRuntimes] at live
    exact rooted.root_kept closed extended live
  · intro rt' name c live registered
    rw [sameRuntimes] at live
    have there := (closed.runtime runtime).registry
    rw [Heap.classNamed, Heap.registryOf, (extended.runtime live).registry, Update.buildClass_apply,
      Heap.registry, Arena.get_modify there] at registered
    split at registered
    · next shared =>
      obtain rfl := rooted.runtimes rt' rt live runtime (Or.inr shared)
      rw [Registry.get?_register] at registered
      split at registered
      · cases registered
        exact defined
      · exact rooted.registered_kept closed extended live registered
    · exact rooted.registered_kept closed extended live registered
  · intro rt' other live live'
    rw [sameRuntimes] at live live'
    exact rooted.runtimes_kept closed extended live live'

theorem Rooted.openRuntime {h : Heap} (rooted : Rooted h) (closed : h.Closed) (options : Options) :
    Rooted (Update.openRuntime options h).2 := by
  have extended := h.extends_openRuntime options
  have new := Update.openRuntime_class options h
  have runtime := Update.openRuntime_runtime options h
  have rootPrototype := Update.openRuntime_rootPrototype options h
  have opened := Update.isLive_openRuntime_fresh options h
  have defined := Update.definedBy_openRuntime options h
  -- an old runtime has an old root prototype and an old registry
  have apart : ∀ rt, h.runtimes.isLive rt = true →
      h.rootPrototype rt ≠ h.objects.fresh ∧ (h.runtime rt).registry ≠ h.registries.fresh := by
    intro rt live
    exact ⟨Arena.fresh_ne_of_isLive (closed.rootPrototype_live live),
      Arena.fresh_ne_of_isLive (closed.runtime live).registry⟩
  refine ⟨?_, ?_, ?_, ?_⟩
  · intro c live
    rcases Update.isLive_openRuntime live with old | rfl
    · exact rooted.definer_kept closed extended old
    · refine ⟨h.runtimes.fresh, opened, defined, ?_, ?_⟩
      · rw [runtime]
        exact fun _ => rfl
      · rw [new]
        intro s link
        cases link
  · intro rt live
    rcases Update.isLive_runtime_openRuntime live with old | rfl
    · exact rooted.root_kept closed extended old
    · rw [runtime, new]
      exact ⟨defined, rfl⟩
  · intro rt name c live registered
    rcases Update.isLive_runtime_openRuntime live with old | rfl
    · rw [Heap.classNamed, Heap.registryOf, (extended.runtime old).registry, Update.openRuntime_apply,
        Heap.registry, Arena.get_add_of_isLive (closed.runtime old).registry] at registered
      exact rooted.registered_kept closed extended old registered
    · rw [Heap.classNamed, Heap.registryOf, runtime, Update.openRuntime_apply, Heap.registry,
        Arena.get_add_fresh, Registry.get?_register] at registered
      split at registered
      · cases registered
        exact defined
      · rw [Registry.get?_empty] at registered
        cases registered
  · intro rt other live live'
    rcases Update.isLive_runtime_openRuntime live with old | rfl
    · rcases Update.isLive_runtime_openRuntime live' with old' | rfl
      · exact rooted.runtimes_kept closed extended old old'
      · rw [extended.rootPrototype closed old, rootPrototype, (extended.runtime old).registry, runtime]
        rintro (same | same)
        · exact absurd same (apart rt old).1
        · exact absurd same (apart rt old).2
    · rcases Update.isLive_runtime_openRuntime live' with old' | rfl
      · rw [extended.rootPrototype closed old', rootPrototype, (extended.runtime old').registry,
          runtime]
        rintro (same | same)
        · exact absurd same.symm (apart other old').1
        · exact absurd same.symm (apart other old').2
      · exact fun _ => rfl

/-- Every event that such a watch allows keeps the classes rooted. -/
theorem Event.rooted {watch : Watch} (definesOnly : watch.DefinesOnly) {h : Heap} {e : Event}
    (closed : h.Closed) (rooted : Rooted h) (allowed : e.Allowed watch h) : Rooted (e.apply h) := by
  by_cases adds : e.AddsClass
  · cases e with
    | klass rt d s => exact rooted.buildClass closed allowed
    | openRuntime options => exact rooted.openRuntime closed options
    | _ => cases adds
  · have same := Event.sameClasses allowed adds
    have extended := same.extended
    refine ⟨fun c live => rooted.definer_kept closed extended (same.classes c live),
      fun rt live => rooted.root_kept closed extended (same.runtimes rt live), ?_,
      fun rt other live live' =>
        rooted.runtimes_kept closed extended (same.runtimes rt live) (same.runtimes other live')⟩
    intro rt name c live registered
    have there := same.runtimes rt live
    rw [Heap.classNamed, Heap.registryOf, (extended.runtime there).registry,
      Event.registry_eq definesOnly closed allowed adds there] at registered
    exact rooted.registered_kept closed extended there registered

theorem Heap.Reached.rooted {watch : Watch} (definesOnly : watch.DefinesOnly) {h : Heap}
    (reached : h.Reached watch) : Rooted h := by
  have both : h.Closed ∧ Rooted h :=
    reached.invariant (P := fun h => h.Closed ∧ Rooted h) ⟨Heap.closed_empty, rooted_empty⟩
      fun _ _ before allowed =>
        ⟨Event.closed before.1 allowed, Event.rooted definesOnly before.1 before.2 allowed⟩
  exact both.2

theorem Heap.Closed.delegation_older {h : Heap} (closed : h.Closed) {o p : ObjectRef}
    (path : Relation.TransGen h.DelegatesTo o p) : p.id < o.id := by
  induction path with
  | single link => exact (closed.prototype_older link).1
  | tail _ link ih => exact Nat.lt_trans (closed.prototype_older link).1 ih

theorem Rooted.graph {h : Heap} (rooted : Rooted h) (linked : Linked h) (closed : h.Closed) :
    ClassGraph h := by
  have unique : ∀ c rt other, h.runtimes.isLive rt = true → h.runtimes.isLive other = true →
      h.DefinedBy c rt → h.DefinedBy c other → other = rt := by
    intro c rt other live live' defined defined'
    exact rooted.runtimes other rt live' live (Or.inl (Option.some.inj (defined'.symm.trans defined)))
  have top : ∀ c rt, h.classes.isLive c = true → h.runtimes.isLive rt = true → h.DefinedBy c rt →
      ((h.klass c).superclass = none ↔ c = (h.runtime rt).root) := by
    intro c rt live runtime defined
    obtain ⟨other, live', defined', top, _⟩ := rooted.definer c live
    obtain rfl := unique c rt other runtime live' defined defined'
    refine ⟨top, ?_⟩
    rintro rfl
    exact (rooted.root other live').2
  refine ⟨?_, linked.bound, ?_, ?_, linked.parent, ?_, top, ?_⟩
  · intro o cycle
    exact Nat.lt_irrefl _ (closed.delegation_older cycle)
  · exact fun o c _ bound => linked.bound_only o c bound
  · exact fun c d live live' same => linked.distinct live live' same
  · intro c live
    obtain ⟨rt, runtime, defined, _, _⟩ := rooted.definer c live
    exact ⟨rt, ⟨runtime, defined⟩, fun other live' => unique c rt other runtime live' defined⟩
  · intro c rt live runtime defined
    induction c using closed.superclass_induction with
    | step c ih =>
      cases link : (h.klass c).superclass with
      | none =>
        rw [← (top c rt live runtime defined).1 link]
      | some s =>
        obtain ⟨other, live', defined', _, parents⟩ := rooted.definer c live
        obtain rfl := unique c rt other runtime live' defined defined'
        exact .head link (ih s link (closed.superclass_older link).2 (parents s link))

/-- Whatever a program does, and whatever the functions do that it makes, the graph of classes is
sound at every moment of the run. A definition gives a class that was defined by the runtime through
which it was made, and which runtime defined a class never changes. -/
theorem classGraph_of_definesOnly {σ : Type} {watch : Watch} (definesOnly : watch.DefinesOnly)
    (depth : Nat) (p : Program σ) (state : σ) (count : Nat) :
    (∀ m ∈ p.moments watch depth state count, ClassGraph m.heap ∧
      (∀ rt d before c, m.answered = some ⟨.defineClass rt d, before, .ok c⟩ →
        m.heap.classes.isLive c = true ∧ m.heap.DefinedBy c rt) ∧
      ∀ rt name superclass entries annotations before c,
        m.answered = some ⟨.defineFlat rt name superclass entries annotations, before, .ok c⟩ →
          m.heap.classes.isLive c = true ∧ m.heap.DefinedBy c rt) ∧
      (p.moments watch depth state count).Pairwise fun earlier later =>
        ∀ c rt, earlier.heap.classes.isLive c = true → earlier.heap.runtimes.isLive rt = true →
          earlier.heap.DefinedBy c rt → later.heap.DefinedBy c rt := by
  refine ⟨fun m member => ?_, ?_⟩
  · have sound := Program.sound_of_mem_moments member
    refine ⟨(sound.reached.rooted definesOnly).graph sound.reached.linked sound.reached.closed, ?_, ?_⟩
    · exact fun rt d before c answered => (sound.known _ answered).meets c rfl
    · exact fun rt name superclass entries annotations before c answered =>
        (sound.known _ answered).meets c rfl
  · refine (Program.moments_ordered watch depth p state count).imp_of_mem ?_
    intro earlier later member _ trace c rt live runtime defined
    obtain ⟨es, trace⟩ := trace
    have closed := (Program.sound_of_mem_moments member).reached.closed
    exact defined.later trace.extends closed live runtime

/- A class may be redefined as a subclass of the previous holder of its name, even while that is
still being initialized, and a class may take the name of the root. -/

/-- The watch under which programs may do anything but register classes. -/
def Watch.definitions : Watch where
  mayAsk _ q :=
    match q with
    | .register _ _ => false
    | _ => true

/-- Defines `A`, whose static initializer defines `A` anew by extending it, and then `Object` as a
subclass of that. -/
def redefining : Program Unit := Script.toProgram do
  let rt ← Script.ask (.newRuntime {})
  let initializer ← Script.newFunction "A.<clinit>" fun rt _ _ => Script.toProgram do
    let _ ← Script.ask (.defineClass rt { name := "A", superclass := "A" })
    return .undefined
  let _ ← Script.ask (.defineClass rt { name := "A", initializer := some initializer })
  let c ← Script.ask (.defineClass rt { name := "Object", superclass := "A" })
  return .klass c

theorem redefining_classGraph :
    Watch.definitions.DefinesOnly ∧
      ∃ m ∈ redefining.moments .definitions 2 () 20,
        m.heap.ancestry ⟨4⟩ = [⟨4⟩, ⟨3⟩, ⟨2⟩, ⟨0⟩] ∧
        [⟨4⟩, ⟨3⟩, ⟨2⟩, ⟨0⟩].map (fun c => (m.heap.klass c).name) = ["Object", "A", "A", "Object"] ∧
        ClassGraph m.heap := by
  have definesOnly : Watch.definitions.DefinesOnly := nofun
  have ends : (redefining.moments .definitions 2 () 20).any (fun m =>
      decide (m.heap.ancestry ⟨4⟩ = [⟨4⟩, ⟨3⟩, ⟨2⟩, ⟨0⟩]) &&
      decide ([⟨4⟩, ⟨3⟩, ⟨2⟩, ⟨0⟩].map (fun c => (m.heap.klass c).name) =
        ["Object", "A", "A", "Object"])) = true := by
    decide +kernel
  obtain ⟨m, member, facts⟩ := List.any_eq_true.1 ends
  rw [Bool.and_eq_true, decide_eq_true_iff, decide_eq_true_iff] at facts
  have sound := classGraph_of_definesOnly definesOnly 2 redefining () 20
  exact ⟨definesOnly, m, member, facts.1, facts.2, (sound.1 m member).1⟩

end ProtoClass
