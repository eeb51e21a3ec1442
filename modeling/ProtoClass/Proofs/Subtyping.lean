import ProtoClass.Proofs.Links
import ProtoClass.Proofs.Spine

set_option autoImplicit false

/- Whether a class is a subclass of another one can be asked in four ways: along the superclasses, along
the prototypes, along the descriptors, and by calling a member of a descriptor object, which reads the
properties of such objects. The four chains are images of the first one, so all give one answer. -/
namespace ProtoClass

/-- Being a subclass is a partial order, and what is above a class is totally ordered. -/
structure SubclassOrder (h : Heap) : Prop where
  refl : ∀ c, h.isSubclassOf c c = true
  antisymm : ∀ c d, h.isSubclassOf c d = true → h.isSubclassOf d c = true → c = d
  trans : ∀ c d e, h.isSubclassOf c d = true → h.isSubclassOf d e = true → h.isSubclassOf c e = true
  total : ∀ c d e, h.isSubclassOf c d = true → h.isSubclassOf c e = true →
    h.isSubclassOf d e = true ∨ h.isSubclassOf e d = true

namespace Heap

theorem isSubclassOf_iff {h : Heap} {c d : ClassRef} :
    h.isSubclassOf c d = true ↔ d ∈ h.ancestry c := by
  rw [isSubclassOf, decide_eq_true_iff]

namespace Closed

variable {h h' : Heap} (closed : h.Closed)
include closed

theorem ancestry_older {c d : ClassRef} (above : d ∈ h.ancestry c) : d.id ≤ c.id := by
  induction c using closed.superclass_induction with
  | step c ih =>
    cases link : (h.klass c).superclass with
    | none =>
      rw [ancestry_of_none link, List.mem_singleton] at above
      exact Nat.le_of_eq (congrArg Ref.id above)
    | some s =>
      rw [closed.ancestry_of_some link, List.mem_cons] at above
      rcases above with rfl | above
      · exact Nat.le_refl _
      · exact Nat.le_trans (ih s link above) (Nat.le_of_lt (closed.superclass_older link).1)

/-- What is above a superclass ends what is above the class. -/
theorem ancestry_suffix {c d : ClassRef} (above : d ∈ h.ancestry c) :
    h.ancestry d <:+ h.ancestry c := by
  induction c using closed.superclass_induction with
  | step c ih =>
    cases link : (h.klass c).superclass with
    | none =>
      rw [ancestry_of_none link, List.mem_singleton] at above
      cases above
      exact List.suffix_rfl
    | some s =>
      rw [closed.ancestry_of_some link, List.mem_cons] at above
      rcases above with rfl | above
      · exact List.suffix_rfl
      · rw [closed.ancestry_of_some link]
        exact (ih s link above).trans (List.suffix_cons _ _)

theorem subclassOrder : SubclassOrder h where
  refl := h.isSubclassOf_refl
  antisymm c d up down := by
    rw [isSubclassOf_iff] at up down
    exact Ref.ext_id (Nat.le_antisymm (closed.ancestry_older down) (closed.ancestry_older up))
  trans c d e first second := by
    rw [isSubclassOf_iff] at first second ⊢
    exact (closed.ancestry_suffix first).mem second
  total c d e first second := by
    simp only [isSubclassOf_iff] at first second ⊢
    rcases List.suffix_or_suffix_of_suffix (closed.ancestry_suffix first)
      (closed.ancestry_suffix second) with below | above
    · exact Or.inr (below.mem (h.mem_ancestry_self d))
    · exact Or.inl (above.mem (h.mem_ancestry_self e))

/-- The superclasses of a class stay the same. -/
theorem ancestry_later (extended : h.Extends h') (closed' : h'.Closed) {c : ClassRef}
    (live : h.classes.isLive c = true) : h'.ancestry c = h.ancestry c := by
  induction c using closed.superclass_induction with
  | step c ih =>
    have same := (extended.klass live).superclass
    cases link : (h.klass c).superclass with
    | none => rw [ancestry_of_none link, ancestry_of_none (same.trans link)]
    | some s =>
      rw [closed.ancestry_of_some link, closed'.ancestry_of_some (same.trans link),
        ih s link (closed.superclass_older link).2]

end Closed

end Heap

section Linked

variable {h : Heap} (linked : Linked h) (closed : h.Closed)
include linked closed

theorem Linked.chain_prototype {c : ClassRef} (live : h.classes.isLive c = true) :
    h.chain (h.klass c).prototype = (h.ancestry c).map fun s => (h.klass s).prototype := by
  induction c using closed.superclass_induction with
  | step c ih =>
    have parent := linked.parent c live
    cases link : (h.klass c).superclass with
    | none =>
      rw [link] at parent
      rw [Heap.ancestry_of_none link, Heap.chain_of_none parent]
      rfl
    | some s =>
      rw [link] at parent
      rw [closed.ancestry_of_some link, closed.chain_of_some parent,
        ih s link (closed.superclass_older link).2]
      rfl

theorem Linked.isSubclassOf {c d : ClassRef} (live : h.classes.isLive c = true)
    (live' : h.classes.isLive d = true) :
    h.isSubclassOf c d =
      (decide (c = d) || h.inheritsFrom (h.klass c).prototype (h.klass d).prototype) := by
  have head : h.ancestry c = c :: (h.ancestry c).tail := by
    rw [Heap.ancestry]
    rfl
  have inherits : (h.klass d).prototype ∈ (h.chain (h.klass c).prototype).tail ↔
      d ∈ (h.ancestry c).tail := by
    rw [linked.chain_prototype closed live, ← List.map_tail, List.mem_map]
    constructor
    · rintro ⟨s, above, same⟩
      have there := closed.ancestry_live live s (List.mem_of_mem_tail above)
      rwa [← linked.distinct there live' same]
    · exact fun above => ⟨d, above, rfl⟩
  rw [Bool.eq_iff_iff, Heap.isSubclassOf_iff, head, List.mem_cons, Heap.inheritsFrom,
    Bool.or_eq_true, decide_eq_true_iff, decide_eq_true_iff, inherits, eq_comm]

end Linked

section Mirror

variable {h : Heap} (mirror : SpineMirror h) (closed : h.Closed)
include mirror closed

theorem SpineMirror.spine_descriptor {c : ClassRef} {d : DescriptorRef}
    (described : (h.klass c).descriptor = some d) :
    (h.spine d).map some = (h.ancestry c).map fun s => (h.klass s).descriptor := by
  induction c using closed.superclass_induction generalizing d with
  | step c ih =>
    cases link : (h.klass c).superclass with
    | none =>
      rw [Heap.ancestry_of_none link,
        Heap.spine_of_none ((mirror.root c d described).2 link), List.map_singleton,
        List.map_singleton, described]
    | some s =>
      obtain ⟨e, above, parent⟩ := mirror.superclass c s d described link
      rw [closed.ancestry_of_some link, closed.spine_of_some parent, List.map_cons, List.map_cons,
        described, ih s link above]

theorem SpineMirror.isAssignableFrom {c d : ClassRef} {e f : DescriptorRef}
    (described : (h.klass c).descriptor = some e) (described' : (h.klass d).descriptor = some f) :
    h.isAssignableFrom f e = h.isSubclassOf c d := by
  have image : f ∈ h.spine e ↔ some f ∈ (h.spine e).map some := by simp
  rw [Bool.eq_iff_iff, Heap.isSubclassOf_iff, Heap.isAssignableFrom, decide_eq_true_iff, image,
    mirror.spine_descriptor closed described, List.mem_map]
  constructor
  · rintro ⟨s, above, same⟩
    rwa [mirror.distinct d s f described' same]
  · exact fun above => ⟨d, above, described'⟩

omit mirror in
theorem Heap.Closed.spine_live {d e : DescriptorRef} (live : h.descriptors.isLive d = true)
    (above : e ∈ h.spine d) : h.descriptors.isLive e = true ∧ e.id ≤ d.id := by
  induction d using closed.spine_induction with
  | step d ih =>
    cases link : (h.descriptor d).superclass with
    | none =>
      rw [spine_of_none link, List.mem_singleton] at above
      rw [above]
      exact ⟨live, Nat.le_refl _⟩
    | some s =>
      rw [closed.spine_of_some link, List.mem_cons] at above
      obtain ⟨older, there⟩ := closed.spine_older link
      rcases above with rfl | above
      · exact ⟨live, Nat.le_refl _⟩
      · obtain ⟨live', below⟩ := ih s link there above
        exact ⟨live', by omega⟩

omit mirror in
theorem Heap.Closed.nodup_spine (d : DescriptorRef) (live : h.descriptors.isLive d = true) :
    (h.spine d).Nodup := by
  induction d using closed.spine_induction with
  | step d ih =>
    cases link : (h.descriptor d).superclass with
    | none =>
      rw [spine_of_none link]
      exact List.pairwise_singleton _ d
    | some s =>
      obtain ⟨older, there⟩ := closed.spine_older link
      rw [closed.spine_of_some link, List.nodup_cons]
      refine ⟨fun above => ?_, ih s link there⟩
      have below := (closed.spine_live there above).2
      omega

/-- The objects of the descriptors above a descriptor are different ones, so there are no more of
them than objects. -/
theorem SpineMirror.length_spine_le {d : DescriptorRef} (live : h.descriptors.isLive d = true) :
    (h.spine d).length ≤ h.objects.size := by
  have apart : ((h.spine d).map fun e => (h.descriptor e).object.id).Nodup := by
    refine List.pairwise_map.2 ((closed.nodup_spine d live).imp_of_mem ?_)
    intro e f above above' distinct same
    exact distinct (mirror.object e f (closed.spine_live live above).1
      (closed.spine_live live above').1 (Ref.ext_id same))
  have within : ((h.spine d).map fun e => (h.descriptor e).object.id) ⊆
      List.range h.objects.size := by
    intro i member
    obtain ⟨e, above, rfl⟩ := List.mem_map.1 member
    have there := (closed.descriptor (closed.spine_live live above).1).object
    rw [Arena.isLive_iff] at there
    exact List.mem_range.2 there
  have bound := apart.length_le_of_subset within
  rwa [List.length_map, List.length_range] at bound

end Mirror

namespace Heap

variable {h : Heap}

theorem get_slot {cell : DescriptorCell} {name : StringRef} {p : Property}
    (properties : (h.object cell.object).properties.toList = h.slotProperties cell name)
    (among : p ∈ h.slotProperties cell name) : h.get cell.object p.name = some p.value := by
  have stored : (h.object cell.object).properties.get? p.name = some p := by
    rw [PropertyTable.get?_eq_some_iff, properties]
    exact ⟨among, rfl⟩
  refine get_of_getOwn ?_
  rw [getOwn, ownProperty, stored]
  rfl

theorem Filled.get_superclass {cell : DescriptorCell} (filled : h.Filled cell) :
    h.get cell.object "superclass" = some (h.spineValue cell.superclass) := by
  obtain ⟨name, _, _, properties⟩ := filled
  refine get_slot (p := ⟨"superclass", h.spineValue cell.superclass, .plain⟩) properties ?_
  simp [slotProperties]

/-- A descriptor object has no other members than its slots. -/
theorem Filled.getOwn_member {cell : DescriptorCell} (filled : h.Filled cell) {member : String}
    (other : member ∉ ["name", "prototype", "annotations", "superclass"]) :
    h.getOwn cell.object member = none := by
  obtain ⟨name, _, _, properties⟩ := filled
  have missing : (h.object cell.object).properties.get? member = none := by
    rw [PropertyTable.get?_eq_none_iff, PropertyTable.names, properties]
    exact other
  rw [getOwn, ownProperty, missing]
  rfl

end Heap

namespace Heap.Pristine

variable {h : Heap} (pristine : h.Pristine) (mirror : SpineMirror h) (closed : h.Closed)
include pristine mirror closed

/-- With enough steps the search along the properties finds what is on the spine. -/
theorem searchSuperclasses {target : DescriptorRef} (there : h.descriptors.isLive target = true)
    {d : DescriptorRef} (live : h.descriptors.isLive d = true) {steps : Nat}
    (enough : (h.spine d).length ≤ steps) :
    h.searchSuperclasses (h.descriptor target).object steps (h.descriptor d).object =
      some (decide (target ∈ h.spine d)) := by
  induction d using closed.spine_induction generalizing steps with
  | step d ih =>
    have same : (h.descriptor d).object = (h.descriptor target).object ↔ target = d :=
      ⟨fun same => (mirror.object d target live there same).symm, fun same => same ▸ rfl⟩
    have next := (pristine.filled d live).get_superclass
    cases steps with
    | zero =>
      rw [spine] at enough
      exact absurd enough (Nat.not_succ_le_zero _)
    | succ steps =>
      rw [Heap.searchSuperclasses, next]
      cases link : (h.descriptor d).superclass with
      | none =>
        rw [spine_of_none link]
        simp only [same, List.mem_singleton, spineValue]
        split <;> simp_all
      | some e =>
        rw [closed.spine_of_some link] at enough ⊢
        have rest := ih e link (closed.spine_older link).2 (Nat.le_of_succ_le_succ enough)
        simp only [same, List.mem_cons, spineValue]
        rw [rest]
        split <;> simp_all

/-- The search through descriptor objects ends, and answers what the descriptors do. -/
theorem spineContains {d target : DescriptorRef} (live : h.descriptors.isLive d = true)
    (there : h.descriptors.isLive target = true) :
    h.spineContains (h.descriptor d).object (h.descriptor target).object =
      some (h.isAssignableFrom target d) :=
  pristine.searchSuperclasses mirror closed there live (mirror.length_spine_le closed live)

omit mirror in
/-- A descriptor object sees the members of its class. -/
theorem get_member {d : DescriptorRef} (live : h.descriptors.isLive d = true) {entry : String × Builtin}
    (among : ∀ constructorPrefix, entry ∈ Update.descriptorSurface constructorPrefix)
    (other : entry.1 ∉ ["name", "prototype", "annotations", "superclass"]) :
    ∃ f, h.get (h.descriptor d).object entry.1 = some (.function f) ∧
      (h.function f).code = .builtin entry.2 := by
  obtain ⟨o, ⟨rt, m, runtime, set, rfl⟩, link⟩ := pristine.made d live
  obtain ⟨f, _, own, code⟩ := pristine.furnished rt m runtime set entry (among _)
  refine ⟨f, ?_, code⟩
  rw [get, closed.chain_of_some link, List.findSome?_cons,
    (pristine.filled d live).getOwn_member other]
  exact get_of_getOwn own

/-- The member of descriptor objects answers what the descriptors do. -/
theorem invoke_isAssignableFrom {σ : Type} (watch : Watch) (n : Nat) (rt : RuntimeRef)
    {w : World σ} (here : w.heap = h) {d e : DescriptorRef} (live : h.descriptors.isLive d = true)
    (live' : h.descriptors.isLive e = true) :
    (Setting.within watch (n + 1)).invoke rt (.object (h.descriptor d).object) "isAssignableFrom"
        [.object (h.descriptor e).object] w =
      some (.ok (.boolean (h.isAssignableFrom d e)), w) := by
  subst here
  have among : ∀ constructorPrefix, ("isAssignableFrom", Builtin.descriptorIsAssignableFrom) ∈
      Update.descriptorSurface constructorPrefix := by
    simp [Update.descriptorSurface]
  obtain ⟨f, found, code⟩ := pristine.get_member closed live among (by decide)
  have search := pristine.spineContains mirror closed live' live
  have called : (Setting.within watch (n + 1)).call f rt (.object (w.heap.descriptor d).object)
      [.object (w.heap.descriptor e).object] w =
        Setting.descriptorIsAssignableFrom (.object (w.heap.descriptor d).object)
          [.object (w.heap.descriptor e).object] w := by
    simp only [Setting.within, callWithin, code]
    rfl
  have lookup : w.heap.lookup rt (.object (w.heap.descriptor d).object) "isAssignableFrom" =
      some (.function f) := found
  have expected : (Action.ofExcept (Heap.expectObject "isAssignableFrom"
      (.object (w.heap.descriptor d).object)) : Action σ ObjectRef) w =
        some (.ok (w.heap.descriptor d).object, w) := rfl
  have ends : (Action.ofOption (w.heap.spineContains (w.heap.descriptor e).object
      (w.heap.descriptor d).object) : Action σ Bool) w =
        some (.ok (w.heap.isAssignableFrom d e), w) := by
    rw [Action.ofOption, search]
    rfl
  unfold Setting.invoke
  rw [Action.heap_bind_apply, lookup]
  refine called.trans ?_
  unfold Setting.descriptorIsAssignableFrom
  rw [Action.bind_of_ok expected]
  dsimp only [List.head?_cons]
  rw [Action.heap_bind_apply, Action.bind_of_ok ends]
  rfl

end Heap.Pristine

/-- Every way to ask whether one class is a subclass of another one gives this answer. -/
structure Agree {σ : Type} (watch : Watch) (w : World σ) (c d : ClassRef) (e f : DescriptorRef)
    (answer : Bool) : Prop where
  subclass : w.heap.isSubclassOf c d = answer
  prototypes : (decide (c = d) ||
    w.heap.inheritsFrom (w.heap.klass c).prototype (w.heap.klass d).prototype) = answer
  descriptors : w.heap.isAssignableFrom f e = answer
  /-- The call ends, and leaves the world as it is, when descriptor objects were spared. -/
  invocation : watch.SparesDescriptors → ∀ n rt,
    (Setting.within watch (n + 1)).invoke rt (.object (w.heap.descriptor f).object)
        "isAssignableFrom" [.object (w.heap.descriptor e).object] w =
      some (.ok (.boolean answer), w)

section Reached

variable {σ : Type} {watch : Watch} {w : World σ}

theorem agree_of_described (reached : Reached watch w) {c d : ClassRef} {e f : DescriptorRef}
    (described : (w.heap.klass c).descriptor = some e)
    (described' : (w.heap.klass d).descriptor = some f) :
    Agree watch w c d e f (w.heap.isSubclassOf c d) := by
  have closed := Heap.Reached.closed reached
  have mirror := Heap.Reached.spineMirror reached
  have live := Heap.isLive_of_descriptor described
  have live' := Heap.isLive_of_descriptor described'
  have descriptors := mirror.isAssignableFrom closed described described'
  refine ⟨rfl, ((Heap.Reached.linked reached).isSubclassOf closed live live').symm, descriptors, ?_⟩
  intro spares n rt
  have pristine := Heap.Reached.pristine reached spares
  rw [← descriptors]
  exact pristine.invoke_isAssignableFrom mirror closed watch n rt rfl
    (closed.descriptor_live described') (closed.descriptor_live described)

theorem perform_descriptorOf (reached : Reached watch w) {n : Nat} {rt : RuntimeRef} {c : ClassRef}
    {d : DescriptorRef} {w' : World σ}
    (run : (Setting.within watch n).perform (.descriptorOf rt c) w = some (.ok d, w')) :
    Reached watch w' ∧ w.heap.Extends w'.heap ∧ (w'.heap.klass c).descriptor = some d := by
  have lawful := within_lawful (σ := σ) watch n
  have kept := lawful.perform reached _ _ _ run
  exact ⟨kept.holds, kept.leads.extended, lawful.perform_meets reached run d rfl⟩

end Reached

/-- At every moment of a run the ways to ask for subclasses agree, for all classes as far as they
need no descriptors, and else for the described ones and for those whose descriptors can be had from
there. Being a subclass is a partial order in which the superclasses of a class form a chain. -/
theorem subtyping_agrees {σ : Type} (watch : Watch) (depth : Nat) (p : Program σ) (state : σ)
    (count : Nat) :
    ∀ m ∈ p.moments watch depth state count, SubclassOrder m.heap ∧
      (∀ c d, m.heap.classes.isLive c = true → m.heap.classes.isLive d = true →
        m.heap.isSubclassOf c d = (decide (c = d) ||
          m.heap.inheritsFrom (m.heap.klass c).prototype (m.heap.klass d).prototype)) ∧
      (∀ c d e f, (m.heap.klass c).descriptor = some e → (m.heap.klass d).descriptor = some f →
        Agree watch m.toWorld c d e f (m.heap.isSubclassOf c d)) ∧
      ∀ n rt rt' c d e f w₁ w₂, m.heap.classes.isLive c = true →
        (Setting.within watch n).perform (.descriptorOf rt c) m.toWorld = some (.ok e, w₁) ∧
            (Setting.within watch n).perform (.descriptorOf rt' d) w₁ = some (.ok f, w₂) ∨
          (Setting.within watch n).perform (.descriptorOf rt d) m.toWorld = some (.ok f, w₁) ∧
            (Setting.within watch n).perform (.descriptorOf rt' c) w₁ = some (.ok e, w₂) →
        Agree watch w₂ c d e f (m.heap.isSubclassOf c d) := by
  intro m member
  have reached : Reached watch m.toWorld := (Program.sound_of_mem_moments member).reached
  have closed := Heap.Reached.closed reached
  refine ⟨closed.subclassOrder, ?_, fun c d e f => agree_of_described reached, ?_⟩
  · exact fun c d => (Heap.Reached.linked reached).isSubclassOf closed
  intro n rt rt' c d e f w₁ w₂ live runs
  -- both classes end up described, in whichever order
  obtain ⟨last, extended, described, described'⟩ : Reached watch w₂ ∧ m.heap.Extends w₂.heap ∧
      (w₂.heap.klass c).descriptor = some e ∧ (w₂.heap.klass d).descriptor = some f := by
    rcases runs with ⟨first, second⟩ | ⟨first, second⟩
    · obtain ⟨between, extended₁, described₁⟩ := perform_descriptorOf reached first
      obtain ⟨last, extended₂, described₂⟩ := perform_descriptorOf between second
      have live₁ := Heap.isLive_of_descriptor described₁
      exact ⟨last, extended₁.trans extended₂,
        (extended₂.klass live₁).descriptor e described₁, described₂⟩
    · obtain ⟨between, extended₁, described₁⟩ := perform_descriptorOf reached first
      obtain ⟨last, extended₂, described₂⟩ := perform_descriptorOf between second
      have live₁ := Heap.isLive_of_descriptor described₁
      exact ⟨last, extended₁.trans extended₂, described₂,
        (extended₂.klass live₁).descriptor f described₁⟩
  have same : w₂.heap.isSubclassOf c d = m.heap.isSubclassOf c d := by
    rw [Heap.isSubclassOf, Heap.isSubclassOf,
      closed.ancestry_later extended (Heap.Reached.closed last) live]
  rw [← same]
  exact agree_of_described last described described'

/-- The watch under which programs may do anything but write to descriptor objects and to prototypes
of metadata classes. -/
def Watch.sparing : Watch where
  mayWrite h o :=
    (List.range h.descriptors.size).all (fun i => (h.descriptor ⟨i⟩).object ≠ o) &&
      (List.range h.runtimes.size).all fun i =>
        (h.runtime ⟨i⟩).metadataClass.all fun m => (h.klass m).prototype ≠ o

theorem Watch.sparing_spares : Watch.sparing.SparesDescriptors := by
  intro h o allowed
  have within : ∀ {k : Kind} {α : Type} {a : Arena k α} {r : Ref k}, a.isLive r = true →
      r.id ∈ List.range a.size := by
    intro k α a r live
    rwa [List.mem_range, ← Arena.isLive_iff]
  obtain ⟨descriptors, runtimes⟩ := Bool.and_eq_true_iff.1 allowed
  rw [List.all_eq_true] at descriptors runtimes
  constructor
  · rintro ⟨d, live, same⟩
    exact of_decide_eq_true (descriptors d.id (within live)) same
  · rintro ⟨rt, m, live, set, same⟩
    have apart := runtimes rt.id (within live)
    rw [set, Option.all_some] at apart
    exact of_decide_eq_true apart same

/-- Defines `A` and its subclass `B`. -/
def subclassing : Program Unit := Script.toProgram do
  let rt ← Script.ask (.newRuntime {})
  let _ ← Script.ask (.defineClass rt { name := "A" })
  let c ← Script.ask (.defineClass rt { name := "B", superclass := "A" })
  return .klass c

/-- The descriptors of `B` and `A`, made at the end in this order, and the call that compares them. -/
theorem subclassing_agree :
    Watch.sparing.SparesDescriptors ∧
      ∃ m ∈ subclassing.moments .sparing 2 () 20, ∃ e f w₁ w₂,
        m.heap.classes.isLive ⟨3⟩ = true ∧
        (Setting.within .sparing 2).perform (.descriptorOf ⟨0⟩ ⟨3⟩) m.toWorld = some (.ok e, w₁) ∧
        (Setting.within .sparing 2).perform (.descriptorOf ⟨0⟩ ⟨2⟩) w₁ = some (.ok f, w₂) ∧
        (Setting.within .sparing 1).invoke ⟨0⟩ (.object (w₂.heap.descriptor f).object)
            "isAssignableFrom" [.object (w₂.heap.descriptor e).object] w₂ =
          some (.ok (.boolean true), w₂) := by
  have ends : (subclassing.moments .sparing 2 () 20).any (fun m =>
      m.heap.classes.isLive ⟨3⟩ && m.heap.isSubclassOf ⟨3⟩ ⟨2⟩ &&
      ((Setting.within .sparing 2).perform (.descriptorOf ⟨0⟩ ⟨3⟩) m.toWorld).any fun first =>
        first.1.isOk &&
        ((Setting.within .sparing 2).perform (.descriptorOf ⟨0⟩ ⟨2⟩) first.2).any fun second =>
          second.1.isOk) = true := by
    decide +kernel
  obtain ⟨m, member, facts⟩ := List.any_eq_true.1 ends
  rw [Bool.and_eq_true, Bool.and_eq_true, Option.any_eq_true] at facts
  obtain ⟨⟨live, below⟩, ⟨first, w₁⟩, made, facts⟩ := facts
  rw [Bool.and_eq_true, Option.any_eq_true] at facts
  obtain ⟨ok, ⟨second, w₂⟩, made', ok'⟩ := facts
  cases first with
  | error => cases ok
  | ok e =>
    cases second with
    | error => cases ok'
    | ok f =>
      obtain ⟨_, _, _, obtained⟩ := subtyping_agrees .sparing 2 subclassing () 20 m member
      have agree := obtained 2 ⟨0⟩ ⟨0⟩ ⟨3⟩ ⟨2⟩ e f w₁ w₂ live (Or.inl ⟨made, made'⟩)
      rw [below] at agree
      exact ⟨Watch.sparing_spares, m, member, e, f, w₁, w₂, live, made, made',
        agree.invocation Watch.sparing_spares 0 ⟨0⟩⟩

end ProtoClass
