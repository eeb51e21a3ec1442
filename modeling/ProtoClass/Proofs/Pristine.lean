import ProtoClass.Proofs.Described

set_option autoImplicit false

namespace ProtoClass

namespace Heap

/-- Metadata classes can describe: their prototypes have the members of descriptor objects, and such
objects delegate to them. -/
structure Equipped (h : Heap) : Prop where
  furnished : ∀ rt m, h.runtimes.isLive rt = true → (h.runtime rt).metadataClass = some m →
    h.Furnished (h.klass m).prototype (h.runtime rt).options.constructorPrefix
  made : ∀ d, h.descriptors.isLive d = true → ∃ o, h.IsMetadataPrototype o ∧
    (h.object (h.descriptor d).object).prototype = some o

structure Pristine (h : Heap) : Prop extends Equipped h where
  filled : ∀ d, h.descriptors.isLive d = true → h.Filled (h.descriptor d)

theorem equipped_empty : Equipped {} where
  furnished rt m live := by
    rw [Arena.isLive_iff] at live
    exact absurd live (Nat.not_lt_zero _)
  made d live := by
    rw [Arena.isLive_iff] at live
    exact absurd live (Nat.not_lt_zero _)

theorem pristine_empty : Pristine {} where
  toEquipped := equipped_empty
  filled d live := by
    rw [Arena.isLive_iff] at live
    exact absurd live (Nat.not_lt_zero _)

variable {h h' : Heap}

theorem Filled.later {cell : DescriptorCell} (filled : h.Filled cell) (extended : h.Extends h')
    (superclass : ∀ e, cell.superclass = some e → h.descriptors.isLive e = true)
    (same : (h'.object cell.object).properties = (h.object cell.object).properties) :
    h'.Filled cell := by
  obtain ⟨name, live, units, properties⟩ := filled
  refine ⟨name, extended.strings.isLive live, ?_, ?_⟩
  · rw [(extended.string live).units, units]
  · rw [same, properties, slotProperties, slotProperties, extended.spineValue superclass]

theorem Furnished.later {o : ObjectRef} {constructorPrefix : String}
    (furnished : h.Furnished o constructorPrefix) (extended : h.Extends h')
    (same : (h'.object o).properties = (h.object o).properties) :
    h'.Furnished o constructorPrefix := by
  intro member among
  obtain ⟨f, live, own, code⟩ := furnished member among
  refine ⟨f, extended.functions.isLive live, ?_, (extended.function live).code.trans code⟩
  rw [getOwn, ownProperty, same]
  exact own

theorem IsMetadataPrototype.later {o : ObjectRef} (metadata : h.IsMetadataPrototype o)
    (closed : h.Closed) (extended : h.Extends h') : h'.IsMetadataPrototype o := by
  obtain ⟨rt, m, live, set, prototype⟩ := metadata
  have there := (closed.runtime live).metadataClass m set
  exact ⟨rt, m, extended.runtimes.isLive live, (extended.runtime live).metadataClass m set,
    (extended.klass there).prototype.trans prototype⟩

theorem isLive_of_metadataClass {rt : RuntimeRef} {m : ClassRef}
    (set : (h.runtime rt).metadataClass = some m) : h.runtimes.isLive rt = true := by
  by_cases live : h.runtimes.isLive rt = true
  · exact live
  · rw [runtime, Arena.get_of_not_isLive live] at set
    cases set

end Heap

variable {watch : Watch} {h : Heap} {e : Event}

theorem Heap.Equipped.furnished_later (equipped : h.Equipped) (spares : watch.SparesMetadata)
    (closed : h.Closed) (allowed : e.Allowed watch h) {rt : RuntimeRef} {m : ClassRef}
    (set : (h.runtime rt).metadataClass = some m) :
    (e.apply h).Furnished ((e.apply h).klass m).prototype
      ((e.apply h).runtime rt).options.constructorPrefix := by
  have extended := Event.extends allowed
  have live := isLive_of_metadataClass set
  have there := (closed.runtime live).metadataClass m set
  rw [(extended.klass there).prototype, (extended.runtime live).options]
  refine (equipped.furnished rt m live set).later extended ?_
  exact Event.spares_metadata closed allowed spares ⟨rt, m, live, set, rfl⟩

theorem Heap.Equipped.made_later (equipped : h.Equipped) (closed : h.Closed)
    (allowed : e.Allowed watch h) {d : DescriptorRef} (live : h.descriptors.isLive d = true) :
    ∃ o, (e.apply h).IsMetadataPrototype o ∧
      ((e.apply h).object ((e.apply h).descriptor d).object).prototype = some o := by
  have extended := Event.extends allowed
  obtain ⟨o, metadata, made⟩ := equipped.made d live
  refine ⟨o, metadata.later closed extended, ?_⟩
  rw [extended.descriptor live, (extended.object (closed.descriptor live).object).prototype]
  exact made

/-- The descriptors after one was recorded: the old ones and the new one. -/
theorem Update.isLive_recordDescriptor {c : ClassRef} {cell : DescriptorCell} {d : DescriptorRef}
    (live : (recordDescriptor c cell h).2.descriptors.isLive d = true) :
    h.descriptors.isLive d = true ∨
      d = h.descriptors.fresh ∧ (recordDescriptor c cell h).2.descriptor d = cell := by
  rw [recordDescriptor_apply, Arena.isLive_add, Bool.or_eq_true, decide_eq_true_iff] at live
  refine live.imp_right ?_
  rintro rfl
  exact ⟨rfl, by rw [recordDescriptor_apply, Heap.descriptor, Arena.get_add_fresh]⟩

/-- Every event keeps metadata classes equipped, under a watch that spares their prototypes. -/
theorem Event.equipped (spares : watch.SparesMetadata) (closed : h.Closed) (equipped : h.Equipped)
    (allowed : e.Allowed watch h) : (e.apply h).Equipped := by
  by_cases describing : e.Describing
  · cases e with
    | describe c cell =>
      refine ⟨fun rt m _ set => equipped.furnished_later spares closed allowed set, fun d live => ?_⟩
      rcases Update.isLive_recordDescriptor live with old | ⟨_, new⟩
      · exact equipped.made_later closed allowed old
      · obtain ⟨o, metadata, made⟩ := allowed.made
        rw [show (apply h (.describe c cell)).descriptor d = cell from new]
        exact ⟨o, metadata.later closed (Event.extends allowed), made⟩
    | closeRuntime rt m =>
      refine ⟨?_, fun d live => equipped.made_later closed allowed live⟩
      intro rt' m' live' set
      by_cases same : rt' = rt
      · subst same
        have there : (Event.closeRuntime rt' m).Allowed watch h := allowed
        obtain ⟨live, _, _, _, _, furnished⟩ := there
        have new : (apply h (.closeRuntime rt' m)).runtime rt' =
            { h.runtime rt' with metadataClass := some m } := by
          rw [apply, Update.setMetadataClass, Update.modifyRuntime, Heap.runtime,
            Arena.get_modify live, if_pos rfl]
          rfl
        rw [new] at set ⊢
        cases set
        exact furnished.later (Event.extends allowed) rfl
      · have old : (apply h (.closeRuntime rt m)).runtime rt' = h.runtime rt' := by
          rw [apply, Update.setMetadataClass, Update.modifyRuntime, Heap.runtime,
            Arena.get_modify allowed.live, if_neg same]
          rfl
        rw [old] at set
        exact equipped.furnished_later spares closed allowed set
    | _ => cases describing
  · have same := Event.sameDescribed describing h
    refine ⟨fun rt m live set => ?_, fun d live => ?_⟩
    · rw [same.metadataClass] at set
      exact equipped.furnished_later spares closed allowed set
    · rw [same.descriptors] at live
      exact equipped.made_later closed allowed live

theorem Heap.Reached.equipped (reached : h.Reached watch) (spares : watch.SparesMetadata) :
    h.Equipped := by
  have both : h.Closed ∧ h.Equipped :=
    reached.invariant (P := fun h => h.Closed ∧ h.Equipped)
      ⟨Heap.closed_empty, Heap.equipped_empty⟩ fun _ _ before allowed =>
      ⟨Event.closed before.1 allowed, Event.equipped spares before.1 before.2 allowed⟩
  exact both.2

theorem Heap.Pristine.filled_later (pristine : h.Pristine) (spares : watch.SparesDescriptors)
    (closed : h.Closed) (allowed : e.Allowed watch h) {d : DescriptorRef}
    (live : h.descriptors.isLive d = true) :
    (e.apply h).Filled ((e.apply h).descriptor d) := by
  have extended := Event.extends allowed
  rw [extended.descriptor live]
  refine (pristine.filled d live).later extended ?_ ?_
  · exact fun s link => (closed.spine_older link).2
  · exact Event.spares_descriptor closed allowed spares ⟨d, live, rfl⟩

/-- Every event that a sparing watch allows keeps a heap pristine. -/
theorem Event.pristine (spares : watch.SparesDescriptors) (closed : h.Closed) (pristine : h.Pristine)
    (allowed : e.Allowed watch h) : (e.apply h).Pristine := by
  refine ⟨Event.equipped spares.metadata closed pristine.toEquipped allowed, fun d live => ?_⟩
  by_cases describing : e.Describing
  · cases e with
    | describe c cell =>
      rcases Update.isLive_recordDescriptor live with old | ⟨_, new⟩
      · exact pristine.filled_later spares closed allowed old
      · rw [show (apply h (.describe c cell)).descriptor d = cell from new]
        refine (allowed.filled spares).later (Event.extends allowed) ?_ rfl
        intro e link
        have parent := allowed.superclass
        rw [link] at parent
        obtain ⟨s, _, described⟩ := parent
        exact closed.descriptor_live described
    | closeRuntime rt m => exact pristine.filled_later spares closed allowed live
    | _ => cases describing
  · rw [(Event.sameDescribed describing h).descriptors] at live
    exact pristine.filled_later spares closed allowed live

theorem Heap.Reached.pristine (reached : h.Reached watch) (spares : watch.SparesDescriptors) :
    h.Pristine := by
  have both : h.Closed ∧ h.Pristine :=
    reached.invariant (P := fun h => h.Closed ∧ h.Pristine)
      ⟨Heap.closed_empty, Heap.pristine_empty⟩ fun _ _ before allowed =>
      ⟨Event.closed before.1 allowed, Event.pristine spares before.1 before.2 allowed⟩
  exact both.2

end ProtoClass
