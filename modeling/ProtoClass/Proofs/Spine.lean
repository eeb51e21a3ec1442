import ProtoClass.Proofs.Moment

set_option autoImplicit false

namespace ProtoClass

/-- How descriptors mirror classes. -/
structure SpineMirror (h : Heap) : Prop where
  name : ∀ c d, (h.klass c).descriptor = some d → (h.descriptor d).name = (h.klass c).name
  prototype : ∀ c d, (h.klass c).descriptor = some d →
    (h.descriptor d).prototype = (h.klass c).prototype
  annotations : ∀ c d, (h.klass c).descriptor = some d →
    (h.descriptor d).annotations = (h.klass c).annotations
  /-- The superclass of a described class is described, and the descriptors are linked likewise. -/
  superclass : ∀ c s d, (h.klass c).descriptor = some d → (h.klass c).superclass = some s →
    ∃ e, (h.klass s).descriptor = some e ∧ (h.descriptor d).superclass = some e
  root : ∀ c d, (h.klass c).descriptor = some d →
    ((h.descriptor d).superclass = none ↔ (h.klass c).superclass = none)
  /-- No two classes share a descriptor. -/
  distinct : ∀ c c' d, (h.klass c).descriptor = some d → (h.klass c').descriptor = some d → c = c'
  /-- Every descriptor describes a class. -/
  described : ∀ d, h.descriptors.isLive d = true → ∃ c, (h.klass c).descriptor = some d
  /-- No two descriptors share an object. -/
  object : ∀ d e, h.descriptors.isLive d = true → h.descriptors.isLive e = true →
    (h.descriptor d).object = (h.descriptor e).object → d = e

/-- Only the recording of a descriptor describes a class. -/
theorem Event.describes_eq {h : Heap} {e : Event} (other : ∀ c cell, e ≠ .describe c cell)
    (c : ClassRef) : ((e.apply h).klass c).descriptor = (h.klass c).descriptor := by
  have undescribed : (h.klass h.classes.fresh).descriptor = none := by
    rw [Heap.klass, Arena.get_of_not_isLive (by simp)]
    rfl
  cases e with
  | klass rt d s =>
    by_cases new : c = h.classes.fresh
    · rw [new, apply, Update.buildClass_class, undescribed]
    · rw [apply, Update.buildClass_apply, Heap.klass, Arena.get_add, if_neg new, Heap.klass]
  | openRuntime options =>
    by_cases new : c = h.classes.fresh
    · rw [new, apply, Update.openRuntime_class, undescribed]
    · rw [apply, Update.openRuntime_apply, Heap.klass, Arena.get_add, if_neg new, Heap.klass]
  | describe c cell => exact absurd rfl (other c cell)
  | _ => rw [Heap.klass, (frame _ h).classes (by simp [footprint]), Heap.klass]

/-- After a descriptor was recorded its class has it, and no other class has changed. -/
theorem Update.recordDescriptor_describes {h : Heap} {c : ClassRef} (live : h.classes.isLive c = true)
    (cell : DescriptorCell) (c' : ClassRef) :
    ((recordDescriptor c cell h).2.klass c').descriptor =
      if c' = c then some h.descriptors.fresh else (h.klass c').descriptor := by
  rw [recordDescriptor_apply, Heap.klass, Arena.get_modify live]
  split <;> rfl

theorem spineMirror_empty : SpineMirror {} := by
  have undescribed : ∀ c, (({} : Heap).klass c).descriptor = none := by
    intro c
    have dead : ¬ ({} : Heap).classes.isLive c = true := by
      rw [Arena.isLive_iff]
      exact Nat.not_lt_zero _
    rw [Heap.klass, Arena.get_of_not_isLive dead]
    rfl
  have dead : ∀ d, ¬ ({} : Heap).descriptors.isLive d = true := by
    intro d
    rw [Arena.isLive_iff]
    exact Nat.not_lt_zero _
  refine ⟨?_, ?_, ?_, ?_, ?_, ?_, fun d live => absurd live (dead d),
    fun d _ live => absurd live (dead d)⟩ <;>
  · intro c
    simp [undescribed]

variable {h h' : Heap}

theorem Heap.isLive_of_descriptor {c : ClassRef} {d : DescriptorRef}
    (described : (h.klass c).descriptor = some d) : h.classes.isLive c = true := by
  by_cases live : h.classes.isLive c = true
  · exact live
  · rw [klass, Arena.get_of_not_isLive live] at described
    cases described

/-- What the mirror says of a class goes on to hold. -/
theorem SpineMirror.kept (mirror : SpineMirror h) (closed : h.Closed) (extended : h.Extends h')
    {c : ClassRef} {d : DescriptorRef} (described : (h.klass c).descriptor = some d) :
    (h'.descriptor d).name = (h'.klass c).name ∧
      (h'.descriptor d).prototype = (h'.klass c).prototype ∧
      (h'.descriptor d).annotations = (h'.klass c).annotations ∧
      (∀ s, (h'.klass c).superclass = some s →
        ∃ e, (h'.klass s).descriptor = some e ∧ (h'.descriptor d).superclass = some e) ∧
      ((h'.descriptor d).superclass = none ↔ (h'.klass c).superclass = none) := by
  have kept := extended.klass (Heap.isLive_of_descriptor described)
  rw [extended.descriptor (closed.descriptor_live described), kept.name, kept.prototype,
    kept.annotations, kept.superclass]
  refine ⟨mirror.name c d described, mirror.prototype c d described,
    mirror.annotations c d described, ?_, mirror.root c d described⟩
  intro s link
  obtain ⟨e, above, linked⟩ := mirror.superclass c s d described link
  exact ⟨e, (extended.klass (closed.superclass_older link).2).descriptor e above, linked⟩

/-- A heap with the same descriptors, which belong to the same classes. -/
theorem SpineMirror.later (mirror : SpineMirror h) (closed : h.Closed) (extended : h.Extends h')
    (descriptors : h'.descriptors = h.descriptors)
    (describes : ∀ c, (h'.klass c).descriptor = (h.klass c).descriptor) : SpineMirror h' := by
  have kept : ∀ c d, (h'.klass c).descriptor = some d → _ := fun c d described =>
    mirror.kept closed extended ((describes c).symm.trans described)
  refine ⟨fun c d described => (kept c d described).1, fun c d described => (kept c d described).2.1,
    fun c d described => (kept c d described).2.2.1,
    fun c s d described => (kept c d described).2.2.2.1 s,
    fun c d described => (kept c d described).2.2.2.2, ?_, ?_, ?_⟩
  · intro c c' d
    rw [describes, describes]
    exact mirror.distinct c c' d
  · intro d live
    rw [descriptors] at live
    obtain ⟨c, described⟩ := mirror.described d live
    exact ⟨c, (describes c).trans described⟩
  · intro d e
    rw [Heap.descriptor, Heap.descriptor, descriptors]
    exact mirror.object d e

theorem SpineMirror.recordDescriptor {watch : Watch} (mirror : SpineMirror h) (closed : h.Closed)
    {c : ClassRef} {cell : DescriptorCell} (recorded : Describes watch h c cell) :
    SpineMirror (Update.recordDescriptor c cell h).2 := by
  have extended := h.extends_recordDescriptor c cell recorded.undescribed
  have describes := Update.recordDescriptor_describes recorded.live cell
  have klass := extended.klass recorded.live
  have new : (Update.recordDescriptor c cell h).2.descriptor h.descriptors.fresh = cell := by
    rw [Update.recordDescriptor_apply, Heap.descriptor, Arena.get_add_fresh]
  have old : ∀ c' d, (h.klass c').descriptor = some d → c' ≠ c ∧ d ≠ h.descriptors.fresh := by
    intro c' d described
    refine ⟨?_, Arena.fresh_ne_of_isLive (closed.descriptor_live described)⟩
    rintro rfl
    rw [recorded.undescribed] at described
    cases described
  have liveDescriptor : ∀ d,
      (Update.recordDescriptor c cell h).2.descriptors.isLive d = true →
        h.descriptors.isLive d = true ∨ d = h.descriptors.fresh := by
    intro d live
    rwa [Update.recordDescriptor_apply, Arena.isLive_add, Bool.or_eq_true,
      decide_eq_true_iff] at live
  -- a described class is an old one or the one whose descriptor was recorded
  have cases : ∀ c' d, ((Update.recordDescriptor c cell h).2.klass c').descriptor = some d →
      (h.klass c').descriptor = some d ∨ c' = c ∧ d = h.descriptors.fresh := by
    intro c' d described
    rw [describes] at described
    split at described
    · next same =>
      exact Or.inr ⟨same, (Option.some.inj described).symm⟩
    · exact Or.inl described
  have unused : ∀ d, h.descriptors.isLive d = true → (h.descriptor d).object ≠ cell.object :=
    fun d live same => recorded.unused ⟨d, live, same⟩
  refine ⟨?_, ?_, ?_, ?_, ?_, ?_, ?_, ?_⟩
  · intro c' d described
    rcases cases c' d described with before | ⟨rfl, rfl⟩
    · exact (mirror.kept closed extended before).1
    · rw [new, klass.name, recorded.name]
  · intro c' d described
    rcases cases c' d described with before | ⟨rfl, rfl⟩
    · exact (mirror.kept closed extended before).2.1
    · rw [new, klass.prototype, recorded.prototype]
  · intro c' d described
    rcases cases c' d described with before | ⟨rfl, rfl⟩
    · exact (mirror.kept closed extended before).2.2.1
    · rw [new, klass.annotations, recorded.annotations]
  · intro c' s d described link
    rcases cases c' d described with before | ⟨rfl, rfl⟩
    · exact (mirror.kept closed extended before).2.2.2.1 s link
    · rw [klass.superclass] at link
      have parent := recorded.superclass
      rw [new]
      cases linked : cell.superclass with
      | none =>
        rw [linked] at parent
        cases parent.symm.trans link
      | some e =>
        rw [linked] at parent
        obtain ⟨s', link', above⟩ := parent
        obtain rfl := Option.some.inj (link'.symm.trans link)
        exact ⟨e, (extended.klass (closed.superclass_older link').2).descriptor e above, rfl⟩
  · intro c' d described
    rcases cases c' d described with before | ⟨rfl, rfl⟩
    · exact (mirror.kept closed extended before).2.2.2.2
    · have parent := recorded.superclass
      rw [new, klass.superclass]
      cases linked : cell.superclass with
      | none =>
        rw [linked] at parent
        exact ⟨fun _ => parent, fun _ => rfl⟩
      | some e =>
        rw [linked] at parent
        obtain ⟨s, link, _⟩ := parent
        constructor
        · intro none
          cases none
        · intro none
          cases link.symm.trans none
  · intro c₁ c₂ d described₁ described₂
    rcases cases c₁ d described₁ with before₁ | ⟨rfl, rfl⟩
    · rcases cases c₂ d described₂ with before₂ | ⟨rfl, rfl⟩
      · exact mirror.distinct c₁ c₂ d before₁ before₂
      · exact absurd rfl (old c₁ _ before₁).2
    · rcases cases c₂ _ described₂ with before₂ | ⟨same, _⟩
      · exact absurd rfl (old c₂ _ before₂).2
      · exact same.symm
  · intro d live
    rcases liveDescriptor d live with before | rfl
    · obtain ⟨c', described⟩ := mirror.described d before
      refine ⟨c', ?_⟩
      rw [describes, if_neg (old c' d described).1]
      exact described
    · exact ⟨c, by rw [describes, if_pos rfl]⟩
  · intro d e live live'
    rcases liveDescriptor d live with before | rfl
    · rcases liveDescriptor e live' with before' | rfl
      · rw [extended.descriptor before, extended.descriptor before']
        exact mirror.object d e before before'
      · rw [extended.descriptor before, new]
        exact fun same => absurd same (unused d before)
    · rcases liveDescriptor e live' with before' | rfl
      · rw [extended.descriptor before', new]
        exact fun same => absurd same.symm (unused e before')
      · exact fun _ => rfl

theorem Event.spineMirror {watch : Watch} {e : Event} (closed : h.Closed) (mirror : SpineMirror h)
    (allowed : e.Allowed watch h) : SpineMirror (e.apply h) := by
  by_cases other : ∀ c cell, e ≠ .describe c cell
  · exact mirror.later closed (Event.extends allowed) (Event.descriptors_eq other h)
      (Event.describes_eq other)
  · cases e with
    | describe c cell => exact mirror.recordDescriptor closed allowed
    | _ => exact absurd nofun other

theorem Heap.Reached.spineMirror {watch : Watch} (reached : h.Reached watch) : SpineMirror h := by
  have both : h.Closed ∧ SpineMirror h :=
    reached.invariant (P := fun h => h.Closed ∧ SpineMirror h)
      ⟨Heap.closed_empty, spineMirror_empty⟩ fun _ _ before allowed =>
        ⟨Event.closed before.1 allowed, Event.spineMirror before.1 before.2 allowed⟩
  exact both.2

/-- Whatever a program does, also with the constructor of descriptor objects, the descriptors mirror
the classes at every moment of the run; each descriptor that is answered is the one that the class
in question has; and a class keeps its descriptor for ever, as it is. -/
theorem spine_mirrors_classes {σ : Type} (watch : Watch) (depth : Nat) (p : Program σ) (state : σ)
    (count : Nat) :
    (∀ m ∈ p.moments watch depth state count, SpineMirror m.heap ∧
      (∀ rt c before d, m.answered = some ⟨.descriptorOf rt c, before, .ok d⟩ →
        (m.heap.klass c).descriptor = some d) ∧
      (∀ rt name before d, m.answered = some ⟨.descriptorNamed rt name, before, .ok (some d)⟩ →
        ∃ c, before.classNamed rt name = some c ∧ (m.heap.klass c).descriptor = some d) ∧
      ∀ rt v before d, m.answered = some ⟨.getClass rt v, before, .ok d⟩ →
        ∃ c, before.classOf rt v = some c ∧ (m.heap.klass c).descriptor = some d) ∧
      (p.moments watch depth state count).Pairwise fun earlier later =>
        ∀ c d, (earlier.heap.klass c).descriptor = some d →
          (later.heap.klass c).descriptor = some d ∧
            later.heap.descriptor d = earlier.heap.descriptor d := by
  refine ⟨fun m member => ?_, ?_⟩
  · have sound := Program.sound_of_mem_moments member
    refine ⟨sound.reached.spineMirror, ?_, ?_, ?_⟩
    · exact fun rt c before d answered => (sound.known _ answered).meets d rfl
    · exact fun rt name before d answered => (sound.known _ answered).meets d rfl
    · exact fun rt v before d answered => (sound.known _ answered).meets d rfl
  · refine (Program.moments_ordered watch depth p state count).imp_of_mem ?_
    intro earlier later member _ trace c d described
    obtain ⟨es, trace⟩ := trace
    have closed := (Program.sound_of_mem_moments member).reached.closed
    exact ⟨(trace.extends.klass (Heap.isLive_of_descriptor described)).descriptor d described,
      trace.extends.descriptor (closed.descriptor_live described)⟩

/-- Puts a constructor of descriptor objects in place that asks, when it is first called, for the
descriptor of the very class whose descriptor is being made. -/
def redescribing : Program Bool := Script.toProgram do
  let rt ← Script.ask (.newRuntime {})
  let _ ← Script.ask (.defineClass rt { name := "A" })
  let c ← Script.ask (.defineClass rt { name := "B", superclass := "A" })
  let constructor ← Script.newFunction "$0" fun rt _ _ => Script.toProgram do
    let again ← Script.state
    if again then return .undefined
    Script.setState true
    let _ ← Script.ask (.descriptorOf rt c)
    return .undefined
  let _ ← Script.ask (.set ⟨5⟩ "$0" (.function constructor))
  let _ ← Script.ask (.descriptorOf rt c)
  return .klass c

theorem redescribing_spineMirror :
    ∃ m ∈ redescribing.moments {} 2 false 40,
      m.heap.descriptors.size = 3 ∧ (m.heap.klass ⟨3⟩).descriptor = some ⟨2⟩ ∧
        m.heap.objects.size = 20 ∧ SpineMirror m.heap := by
  have ends : (redescribing.moments {} 2 false 40).any (fun m =>
      decide (m.heap.descriptors.size = 3) && decide ((m.heap.klass ⟨3⟩).descriptor = some ⟨2⟩) &&
      decide (m.heap.objects.size = 20)) = true := by
    decide +kernel
  obtain ⟨m, member, facts⟩ := List.any_eq_true.1 ends
  simp only [Bool.and_eq_true, decide_eq_true_iff] at facts
  have sound := spine_mirrors_classes {} 2 redescribing false 40
  exact ⟨m, member, facts.1.1, facts.1.2, facts.2, (sound.1 m member).1⟩

end ProtoClass
