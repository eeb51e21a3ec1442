import ProtoClass.Proofs.Moment

set_option autoImplicit false

namespace ProtoClass

/-- How classes and prototypes are linked. -/
structure Linked (h : Heap) : Prop where
  bound : ∀ c, h.classes.isLive c = true → (h.object (h.klass c).prototype).boundClass = some c
  bound_only : ∀ o c, (h.object o).boundClass = some c → (h.klass c).prototype = o
  /-- A prototype delegates to that of the superclass, and to nothing without one. -/
  parent : ∀ c, h.classes.isLive c = true →
    (h.object (h.klass c).prototype).prototype =
      (h.klass c).superclass.map fun s => (h.klass s).prototype

theorem linked_empty : Linked {} := by
  have dead : ∀ {k : Kind} {α : Type} {r : Ref k}, ¬ ({} : Arena k α).isLive r = true := by
    intro k α r
    rw [Arena.isLive_iff]
    exact Nat.not_lt_zero _
  refine ⟨fun c live => absurd live dead, ?_, fun c live => absurd live dead⟩
  intro o c bound
  rw [Heap.object, Arena.get_of_not_isLive dead] at bound
  cases bound

/-- The later heap has the same classes and runtimes, and no more objects that are bound. -/
structure SameClasses (h h' : Heap) : Prop where
  extended : h.Extends h'
  classes : ∀ c, h'.classes.isLive c = true → h.classes.isLive c = true
  runtimes : ∀ rt, h'.runtimes.isLive rt = true → h.runtimes.isLive rt = true
  bound : ∀ o c, (h'.object o).boundClass = some c → (h.object o).boundClass = some c

/-- Does the event add a class? -/
def Event.AddsClass : Event → Prop
  | klass _ _ _ => True
  | openRuntime _ => True
  | _ => False

theorem Event.sameClasses {watch : Watch} {h : Heap} {e : Event} (allowed : e.Allowed watch h)
    (other : ¬ e.AddsClass) : SameClasses h (e.apply h) := by
  have outside := Event.frame e h
  refine ⟨Event.extends allowed, ?_, ?_, ?_⟩
  · intro c live
    cases e with
    | klass | openRuntime => exact absurd trivial other
    | describe d cell => rwa [apply, Update.recordDescriptor_apply, Arena.isLive_modify] at live
    | _ => rwa [outside.classes (by simp [footprint])] at live
  · intro rt
    refine Event.isLive_runtime ?_
    rintro options rfl
    exact other trivial
  · intro o c bound
    have writes := fun p (written : e.written = some p) => apply_of_written written h
    cases e with
    | klass | openRuntime => exact absurd trivial other
    | set p | define p | delete p | install p | furnish p =>
      obtain ⟨f, changed⟩ := writes p rfl
      rwa [changed, h.object_mapProperties p f o ObjectCell.boundClass fun _ _ => rfl] at bound
    | object prototype entries =>
      rw [apply, Update.newObjectOf_apply, Heap.object, Arena.get_add] at bound
      split at bound
      · cases bound
      · exact bound
    | identity k x =>
      rw [apply, Update.identityOf_apply] at bound
      split at bound
      · exact bound
      · split at bound
        · exact bound
        · rwa [(h.advance k).object_keep _ _ o ObjectCell.boundClass fun _ _ => rfl] at bound
    | host rt name create =>
      rw [apply, Update.registerHost_apply] at bound
      split at bound
      · exact bound
      · rw [Heap.object, Arena.get_add, Arena.get_add] at bound
        split at bound
        · cases bound
        · split at bound
          · cases bound
          · exact bound
    | _ => rwa [Heap.object, outside.objects (by simp [footprint])] at bound

/-- A class that was built was defined by the runtime that built it. -/
theorem Heap.Closed.definedBy_buildClass {h : Heap} (closed : h.Closed) {rt : RuntimeRef}
    (runtime : h.runtimes.isLive rt = true) {d : Definition} {s : ClassRef}
    (extended : h.Extends (Update.buildClass rt d s h).2) :
    (Update.buildClass rt d s h).2.DefinedBy h.classes.fresh rt := by
  rw [Heap.DefinedBy, Update.buildClass_class, Update.buildClass_statics,
    extended.rootPrototype closed runtime]

theorem Update.openRuntime_rootPrototype (options : Options) (h : Heap) :
    (openRuntime options h).2.rootPrototype h.runtimes.fresh = h.objects.fresh := by
  rw [Heap.rootPrototype, openRuntime_runtime, openRuntime_class]

theorem Update.definedBy_openRuntime (options : Options) (h : Heap) :
    (openRuntime options h).2.DefinedBy h.classes.fresh h.runtimes.fresh := by
  rw [Heap.DefinedBy, openRuntime_class, openRuntime_statics, openRuntime_rootPrototype]

/-- Was every class defined by some runtime? -/
def Heap.AllDefined (h : Heap) : Prop :=
  ∀ c, h.classes.isLive c = true → ∃ rt, h.runtimes.isLive rt = true ∧ h.DefinedBy c rt

theorem Event.allDefined {watch : Watch} {h : Heap} {e : Event} (closed : h.Closed)
    (defined : h.AllDefined) (allowed : e.Allowed watch h) : (e.apply h).AllDefined := by
  intro c live
  have extended := Event.extends allowed
  have old : h.classes.isLive c = true →
      ∃ rt, (e.apply h).runtimes.isLive rt = true ∧ (e.apply h).DefinedBy c rt := by
    intro there
    obtain ⟨rt, runtime, definer⟩ := defined c there
    exact ⟨rt, extended.runtimes.isLive runtime, definer.later extended closed there runtime⟩
  by_cases adds : e.AddsClass
  · cases e with
    | klass rt d s =>
      rcases Update.isLive_buildClass live with there | rfl
      · exact old there
      · exact ⟨rt, extended.runtimes.isLive allowed.1, closed.definedBy_buildClass allowed.1 extended⟩
    | openRuntime options =>
      rcases Update.isLive_openRuntime live with there | rfl
      · exact old there
      · exact ⟨_, Update.isLive_openRuntime_fresh options h, Update.definedBy_openRuntime options h⟩
    | _ => cases adds
  · exact old ((Event.sameClasses allowed adds).classes c live)

theorem Heap.Reached.allDefined {watch : Watch} {h : Heap} (reached : h.Reached watch) :
    h.AllDefined := by
  have none : Heap.AllDefined {} := by
    intro c live
    rw [Arena.isLive_iff] at live
    exact absurd live (Nat.not_lt_zero _)
  have both : h.Closed ∧ h.AllDefined :=
    reached.invariant (P := fun h => h.Closed ∧ h.AllDefined) ⟨Heap.closed_empty, none⟩
      fun _ _ before allowed =>
        ⟨Event.closed before.1 allowed, Event.allDefined before.1 before.2 allowed⟩
  exact both.2

section Kept

variable {h h' : Heap} (linked : Linked h) (closed : h.Closed) (extended : h.Extends h')
include linked closed extended

theorem Linked.bound_kept {c : ClassRef} (live : h.classes.isLive c = true) :
    (h'.object (h'.klass c).prototype).boundClass = some c := by
  rw [(extended.klass live).prototype, (extended.object (closed.klass live).prototype).boundClass]
  exact linked.bound c live

theorem Linked.bound_only_kept {o : ObjectRef} {c : ClassRef}
    (bound : (h.object o).boundClass = some c) : (h'.klass c).prototype = o := by
  rw [(extended.klass (closed.bound_live bound)).prototype]
  exact linked.bound_only o c bound

theorem Linked.parent_kept {c : ClassRef} (live : h.classes.isLive c = true) :
    (h'.object (h'.klass c).prototype).prototype =
      (h'.klass c).superclass.map fun s => (h'.klass s).prototype := by
  rw [(extended.klass live).prototype, (extended.object (closed.klass live).prototype).prototype,
    (extended.klass live).superclass, linked.parent c live]
  cases link : (h.klass c).superclass with
  | none => rfl
  | some s => exact congrArg some (extended.klass (closed.superclass_older link).2).prototype.symm

end Kept

theorem Linked.buildClass {watch : Watch} {h : Heap} (linked : Linked h) (closed : h.Closed)
    {rt : RuntimeRef} {d : Definition} {s : ClassRef}
    (allowed : Event.Allowed watch h (.klass rt d s)) :
    Linked (Update.buildClass rt d s h).2 := by
  have extended : h.Extends (Update.buildClass rt d s h).2 := Event.extends allowed
  have superclass := closed.resolve_live allowed.1 allowed.2.2
  have new := Update.buildClass_class rt d s h
  have prototype := Update.buildClass_prototype rt d s h
  refine ⟨?_, ?_, ?_⟩
  · intro c live
    rcases Update.isLive_buildClass live with old | rfl
    · exact linked.bound_kept closed extended old
    · rw [new, prototype]
  · intro o c bound
    rcases Update.buildClass_bound rt d s h bound with old | ⟨rfl, rfl⟩
    · exact linked.bound_only_kept closed extended old
    · rw [new]
  · intro c live
    rcases Update.isLive_buildClass live with old | rfl
    · exact linked.parent_kept closed extended old
    · rw [new, prototype]
      exact congrArg some (extended.klass superclass).prototype.symm

theorem Linked.openRuntime {h : Heap} (linked : Linked h) (closed : h.Closed) (options : Options) :
    Linked (Update.openRuntime options h).2 := by
  have extended := h.extends_openRuntime options
  have new := Update.openRuntime_class options h
  have prototype := Update.openRuntime_prototype options h
  refine ⟨?_, ?_, ?_⟩
  · intro c live
    rcases Update.isLive_openRuntime live with old | rfl
    · exact linked.bound_kept closed extended old
    · rw [new, prototype]
  · intro o c bound
    rcases Update.openRuntime_bound options h bound with old | ⟨rfl, rfl⟩
    · exact linked.bound_only_kept closed extended old
    · rw [new]
  · intro c live
    rcases Update.isLive_openRuntime live with old | rfl
    · exact linked.parent_kept closed extended old
    · rw [new, prototype]
      rfl

/-- Every event keeps the links. -/
theorem Event.linked {watch : Watch} {h : Heap} {e : Event} (closed : h.Closed) (linked : Linked h)
    (allowed : e.Allowed watch h) : Linked (e.apply h) := by
  by_cases adds : e.AddsClass
  · cases e with
    | klass rt d s => exact linked.buildClass closed allowed
    | openRuntime options => exact linked.openRuntime closed options
    | _ => cases adds
  · have same := Event.sameClasses allowed adds
    exact ⟨fun c live => linked.bound_kept closed same.extended (same.classes c live),
      fun o c bound => linked.bound_only_kept closed same.extended (same.bound o c bound),
      fun c live => linked.parent_kept closed same.extended (same.classes c live)⟩

theorem Heap.Reached.linked {watch : Watch} {h : Heap} (reached : h.Reached watch) : Linked h := by
  have both : h.Closed ∧ Linked h :=
    reached.invariant (P := fun h => h.Closed ∧ Linked h) ⟨Heap.closed_empty, linked_empty⟩
      fun _ _ before allowed =>
        ⟨Event.closed before.1 allowed, Event.linked before.1 before.2 allowed⟩
  exact both.2

/-- Two classes do not share a prototype. -/
theorem Linked.distinct {h : Heap} (linked : Linked h) {c d : ClassRef}
    (live : h.classes.isLive c = true) (live' : h.classes.isLive d = true)
    (same : (h.klass c).prototype = (h.klass d).prototype) : c = d := by
  have bound := linked.bound c live
  rw [same, linked.bound d live'] at bound
  exact (Option.some.inj bound).symm

end ProtoClass
