import ProtoClass.Proofs.Reached

set_option autoImplicit false

namespace ProtoClass

/-- Does the event record a descriptor or a metadata class? -/
def Event.Describing : Event → Prop
  | describe _ _ => True
  | closeRuntime _ _ => True
  | _ => False

/-- The later heap has no other descriptors, and its runtimes have no other metadata classes. -/
structure Heap.SameDescribed (h h' : Heap) : Prop where
  descriptors : h'.descriptors = h.descriptors
  metadataClass : ∀ rt, (h'.runtime rt).metadataClass = (h.runtime rt).metadataClass

namespace Heap.SameDescribed

theorem refl (h : Heap) : h.SameDescribed h := ⟨rfl, fun _ => rfl⟩

theorem trans {h₁ h₂ h₃ : Heap} (first : h₁.SameDescribed h₂) (second : h₂.SameDescribed h₃) :
    h₁.SameDescribed h₃ where
  descriptors := second.descriptors.trans first.descriptors
  metadataClass rt := (second.metadataClass rt).trans (first.metadataClass rt)

/-- An object that was not there stands for no descriptor that was there. -/
theorem spares {h h' : Heap} (same : h.SameDescribed h') (closed : h.Closed)
    (extended : h.Extends h') {o : ObjectRef} (new : ¬ h.objects.isLive o = true) :
    ¬ h'.IsDescriptorObject o ∧ ¬ h'.IsMetadataPrototype o := by
  constructor
  · rintro ⟨d, live, rfl⟩
    rw [descriptor, same.descriptors] at new
    rw [same.descriptors] at live
    exact new (closed.descriptor live).object
  · rintro ⟨rt, m, _, set, rfl⟩
    rw [same.metadataClass] at set
    by_cases live : h.runtimes.isLive rt = true
    · have there := (closed.runtime live).metadataClass m set
      rw [(extended.klass there).prototype] at new
      exact new (closed.klass there).prototype
    · rw [runtime, Arena.get_of_not_isLive live] at set
      cases set

end Heap.SameDescribed

theorem Event.sameDescribed {e : Event} (other : ¬ e.Describing) (h : Heap) :
    h.SameDescribed (e.apply h) := by
  have outside := Event.frame e h
  have kept : .descriptor ∉ e.footprint → .runtime ∉ e.footprint → h.SameDescribed (e.apply h) := by
    intro descriptors runtimes
    refine ⟨outside.descriptors descriptors, fun rt => ?_⟩
    rw [Heap.runtime, outside.runtimes runtimes, Heap.runtime]
  cases e with
  | host rt name create =>
    rw [apply, Update.registerHost_apply]
    split
    · exact .refl h
    · refine ⟨rfl, fun other => ?_⟩
      exact Arena.get_modify_same h.runtimes rt other _ RuntimeCell.metadataClass fun _ => rfl
  | openRuntime options =>
    rw [apply, Update.openRuntime_apply]
    refine ⟨rfl, fun rt => ?_⟩
    rw [Heap.runtime, Arena.get_add]
    split
    · next fresh =>
      rw [fresh, Heap.runtime, Arena.get_of_not_isLive (by simp)]
      rfl
    · rfl
  | describe | closeRuntime => exact absurd trivial other
  | _ => exact kept (by simp [footprint]) (by simp [footprint])

/-- Only the recording of a descriptor adds one. -/
theorem Event.descriptors_eq {e : Event} (other : ∀ c cell, e ≠ .describe c cell) (h : Heap) :
    (e.apply h).descriptors = h.descriptors := by
  cases e with
  | describe c cell => exact absurd rfl (other c cell)
  | _ => exact (frame _ h).descriptors (by simp [footprint])

theorem Heap.mapProperties_eq_self {h : Heap} {o : ObjectRef} {f : PropertyTable → PropertyTable}
    (same : f (h.object o).properties = (h.object o).properties) : h.mapProperties o f = h := by
  have unchanged : (h.objects.modify o fun cell => { cell with properties := f cell.properties }) =
      h.objects.modify o fun cell => cell := by
    refine Arena.modify_congr fun cell stored => ?_
    rw [Heap.object, Arena.get_of_get? stored] at same
    rw [same]
  rw [mapProperties, unchanged, Arena.modify_id]

namespace Update

theorem set_refused {o : ObjectRef} {name : String} {value : Value} {h : Heap}
    (refused : (set o name value h).1 = false) : (set o name value h).2 = h := by
  rw [set, changeProperties_heap]
  exact Heap.mapProperties_eq_self (PropertyTable.set_refused refused)

theorem define_refused {o : ObjectRef} {name : String} {value : Value} {flags : Flags} {h : Heap}
    (refused : (define o name value flags h).1 = false) : (define o name value flags h).2 = h := by
  rw [define, changeProperties_heap]
  exact Heap.mapProperties_eq_self (PropertyTable.define_refused refused)

theorem delete_refused {o : ObjectRef} {name : String} {h : Heap}
    (refused : (delete o name h).1 = false) : (delete o name h).2 = h := by
  rw [delete, changeProperties_heap]
  exact Heap.mapProperties_eq_self (PropertyTable.delete_refused refused)

theorem installOne_refused {o : ObjectRef} {name : String} {value : Value} {h : Heap}
    (refused : (installOne o name value h).1 = false) : (installOne o name value h).2 = h := by
  rcases installOne_cases o name value h with same | defined
  · rw [same]
  · rw [defined] at refused ⊢
    exact define_refused refused

/-- Installing nothing leaves the heap as it is. -/
theorem install_refused {o : ObjectRef} {properties : List (String × Value)} {h : Heap}
    (refused : (install o properties h).1 = 0) : (install o properties h).2 = h := by
  induction properties generalizing h with
  | nil => rfl
  | cons entry rest ih =>
    have count : (install o (entry :: rest) h).1 =
        if (installOne o entry.1 entry.2 h).1 then
          (install o rest (installOne o entry.1 entry.2 h).2).1 + 1
        else (install o rest (installOne o entry.1 entry.2 h).2).1 := rfl
    rw [count] at refused
    split at refused
    · cases refused
    · next first =>
      rw [install_cons_heap, ih refused, installOne_refused (Bool.eq_false_iff.2 first)]

end Update

theorem Heap.properties_mapProperties_of_ne (h : Heap) {o p : ObjectRef} (other : p ≠ o)
    (f : PropertyTable → PropertyTable) : (h.mapProperties o f).object p = h.object p :=
  Arena.get_modify_of_ne h.objects other _

/-- An event leaves alone the properties of all old objects but the one that it writes to. -/
theorem Event.properties_of_unwritten {h : Heap} {e : Event} {o : ObjectRef}
    (live : h.objects.isLive o = true) (unwritten : e.written ≠ some o) :
    ((e.apply h).object o).properties = (h.object o).properties := by
  have older := Arena.fresh_ne_of_isLive live
  have below := (Arena.isLive_iff _ _).1 live
  have later : ∀ n, o ≠ ⟨h.objects.size + n⟩ := by
    rintro n rfl
    exact absurd below (by simp)
  have writes := fun p (written : e.written = some p) => apply_of_written written h
  cases e with
  | set p | define p | delete p | install p | furnish p =>
    have apart : o ≠ p := by
      rintro rfl
      exact unwritten rfl
    obtain ⟨f, changed⟩ := writes p rfl
    rw [changed, h.properties_mapProperties_of_ne apart]
  | object prototype entries =>
    rw [apply, Update.newObjectOf_apply, Heap.object, Arena.get_add, if_neg older]
    rfl
  | identity k x =>
    rw [apply, Update.identityOf_apply]
    split
    · rfl
    · split
      · rfl
      · exact (h.advance k).object_keep (h.slot x) _ o ObjectCell.properties fun _ _ => rfl
  | hash s =>
    rw [apply, Update.hashOf_apply]
    split <;> rfl
  | host rt name create =>
    rw [apply, Update.registerHost_apply]
    split
    · rfl
    · rw [Heap.object, Arena.get_add, Arena.get_add, if_neg older, Arena.fresh_add,
        if_neg (later 1)]
      rfl
  | klass rt d s =>
    rw [apply, Update.buildClass_apply, Heap.object, Arena.get_add, Arena.get_add, Arena.get_add,
      if_neg older, Arena.fresh_add, Arena.fresh_add, Arena.size_add, if_neg (later 1),
      if_neg (later 2)]
    rfl
  | openRuntime options =>
    rw [apply, Update.openRuntime_apply, Heap.object, Arena.get_add, Arena.get_add, Arena.get_add,
      if_neg older, Arena.fresh_add, Arena.fresh_add, Arena.size_add, if_neg (later 1),
      if_neg (later 2)]
    rfl
  | _ => rfl

/-- An event changes the properties of an old object only when it furnishes the object, or when a
program may write to it. -/
theorem Event.properties_eq {watch : Watch} {h : Heap} {e : Event} (allowed : e.Allowed watch h)
    {o : ObjectRef} (live : h.objects.isLive o = true)
    (unwritten : ¬ watch.mayWrite h o = true) (unfurnished : ∀ properties, e ≠ .furnish o properties) :
    ((e.apply h).object o).properties = (h.object o).properties := by
  by_cases other : e.written = some o
  · cases e with
    | set p name value =>
      cases other
      rw [apply, Update.set_refused (Bool.eq_false_iff.2 fun done => unwritten (allowed.2.2 done))]
    | define p name value flags =>
      cases other
      rw [apply, Update.define_refused (Bool.eq_false_iff.2 fun done => unwritten (allowed.2.2 done))]
    | delete p name =>
      cases other
      rw [apply, Update.delete_refused (Bool.eq_false_iff.2 fun done => unwritten (allowed.2 done))]
    | install p properties =>
      cases other
      rw [apply, Update.install_refused (Decidable.not_not.1 fun done => unwritten (allowed.2.2 done))]
    | furnish p properties =>
      cases other
      exact absurd rfl (unfurnished properties)
    | _ => cases other
  · exact properties_of_unwritten live other

/-- Does a watch rule out that a program writes to prototypes of metadata classes? -/
def Watch.SparesMetadata (watch : Watch) : Prop :=
  ∀ h o, watch.mayWrite h o = true → ¬ h.IsMetadataPrototype o

theorem Watch.SparesDescriptors.metadata {watch : Watch} (spares : watch.SparesDescriptors) :
    watch.SparesMetadata :=
  fun h o write => (spares h o write).2

section Spared

variable {watch : Watch} {h : Heap} {e : Event} {o : ObjectRef} (closed : h.Closed)
  (allowed : e.Allowed watch h)
include closed allowed

/-- No event changes the properties of a descriptor object. -/
theorem Event.spares_descriptor (spares : watch.SparesDescriptors) (stands : h.IsDescriptorObject o) :
    ((e.apply h).object o).properties = (h.object o).properties := by
  refine Event.properties_eq allowed ?_ (fun write => (spares h o write).1 stands) ?_
  · obtain ⟨d, live, rfl⟩ := stands
    exact (closed.descriptor live).object
  · rintro properties rfl
    exact allowed.2.2.1 stands

/-- No event changes the properties of the prototype of a metadata class. -/
theorem Event.spares_metadata (spares : watch.SparesMetadata) (metadata : h.IsMetadataPrototype o) :
    ((e.apply h).object o).properties = (h.object o).properties := by
  refine Event.properties_eq allowed ?_ (fun write => spares h o write metadata) ?_
  · obtain ⟨rt, m, live, set, rfl⟩ := metadata
    exact (closed.klass ((closed.runtime live).metadataClass m set)).prototype
  · rintro properties rfl
    exact allowed.2.2.2 metadata

end Spared

end ProtoClass
