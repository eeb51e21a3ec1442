import ProtoClass.Proofs.Pristine

set_option autoImplicit false

/- A finished operation leads from one heap to a later one by a trace that furnishes only what it made
itself, and the runtimes that it leaves new were built with acceptable options. Besides, each
descriptor made on the way stands on an object made on the way: while an operation runs this may fail
for a moment, so it is said of finished operations only. -/
namespace ProtoClass

/-- Is the event a stage in the building of a runtime? -/
def Event.Builds : Event → Prop
  | openRuntime _ => True
  | furnish _ _ => True
  | closeRuntime _ _ => True
  | _ => False

/-- Is the event neither a stage in the building of a runtime nor the recording of a descriptor? -/
def Event.Ordinary : Event → Prop
  | describe _ _ => False
  | openRuntime _ => False
  | furnish _ _ => False
  | closeRuntime _ _ => False
  | _ => True

theorem Event.Ordinary.builds {e : Event} (ordinary : e.Ordinary) : ¬ e.Builds := by
  cases e with
  | openRuntime | furnish | closeRuntime => cases ordinary
  | _ => exact id

/-- A trace that furnishes nothing that was there before it. -/
def Passage (watch : Watch) (h h' : Heap) : Prop :=
  ∃ es, Trace watch h es h' ∧
    ∀ o properties, Event.furnish o properties ∈ es → ¬ h.objects.isLive o = true

namespace Passage

variable {watch : Watch} {h h' h'' : Heap} {e : Event}

theorem trace (passage : Passage watch h h') : ∃ es, Trace watch h es h' := by
  obtain ⟨es, trace, _⟩ := passage
  exact ⟨es, trace⟩

theorem extended (passage : Passage watch h h') : h.Extends h' := by
  obtain ⟨es, trace⟩ := passage.trace
  exact trace.extends

theorem reached (passage : Passage watch h h') (reached : h.Reached watch) : h'.Reached watch := by
  obtain ⟨es, trace⟩ := passage.trace
  exact reached.trace trace

theorem closed (passage : Passage watch h h') (closed : h.Closed) : h'.Closed := by
  obtain ⟨es, trace⟩ := passage.trace
  exact trace.invariant (fun _ _ => Event.closed) closed

theorem refl (watch : Watch) (h : Heap) : Passage watch h h :=
  ⟨[], .nil h, nofun⟩

theorem trans (first : Passage watch h h') (second : Passage watch h' h'') :
    Passage watch h h'' := by
  obtain ⟨es, before, new⟩ := first
  obtain ⟨es', after, new'⟩ := second
  refine ⟨es ++ es', before.append after, fun o properties member => ?_⟩
  rcases List.mem_append.1 member with early | late
  · exact new o properties early
  · exact fun old => new' o properties late (before.extends.objects.isLive old)

theorem single (allowed : e.Allowed watch h)
    (new : ∀ o properties, e = .furnish o properties → ¬ h.objects.isLive o = true) :
    Passage watch h (e.apply h) :=
  ⟨[e], .single allowed, fun o properties member => new o properties (List.mem_singleton.1 member).symm⟩

theorem of_event (allowed : e.Allowed watch h) (other : ¬ e.Builds) : Passage watch h (e.apply h) := by
  refine single allowed ?_
  rintro o properties rfl
  exact absurd trivial other

/-- An object to which no program may write keeps its properties. -/
theorem properties_eq (passage : Passage watch h h') {o : ObjectRef}
    (live : h.objects.isLive o = true)
    (unwritten : ∀ later, h.Extends later → ¬ watch.mayWrite later o = true) :
    (h'.object o).properties = (h.object o).properties := by
  obtain ⟨es, trace, new⟩ := passage
  have unfurnished : ∀ properties, Event.furnish o properties ∉ es :=
    fun properties member => new o properties member live
  clear new
  induction trace with
  | nil => rfl
  | @cons h h' e es first rest ih =>
    have extended := Event.extends first
    have kept := Event.properties_eq first live (unwritten h (.refl h)) fun properties same =>
      unfurnished properties (same ▸ List.mem_cons_self)
    rw [← kept]
    exact ih (extended.objects.isLive live)
      (fun later extends' => unwritten later (extended.trans extends'))
      fun properties member => unfurnished properties (List.mem_cons_of_mem _ member)

end Passage

/-- The watch under which programs write no properties. -/
def Watch.still : Watch where
  mayWrite _ _ := false

theorem Passage.still {h h' : Heap} (passage : Passage .still h h') {o : ObjectRef}
    (live : h.objects.isLive o = true) : (h'.object o).properties = (h.object o).properties :=
  passage.properties_eq live fun _ _ write => Bool.false_ne_true write

/-- The runtime was built with these options in the first heap, and a passage leads from there to the
second one. -/
structure BuiltFrom (watch : Watch) (options : Options) (h₀ : Heap) (rt : RuntimeRef) (h : Heap) :
    Prop where
  reached : h₀.Reached watch
  valid : options.validate = .ok ()
  made : (Update.buildRuntime options h₀).1 = rt
  since : Passage watch (Update.buildRuntime options h₀).2 h

/-- The runtime was built with acceptable options. -/
def Heap.Built (watch : Watch) (h : Heap) (rt : RuntimeRef) : Prop :=
  ∃ options h₀, BuiltFrom watch options h₀ rt h

theorem Heap.Built.later {watch : Watch} {h h' : Heap} {rt : RuntimeRef} (built : h.Built watch rt)
    (passage : Passage watch h h') : h'.Built watch rt := by
  obtain ⟨options, h₀, from₀⟩ := built
  exact ⟨options, h₀, { from₀ with since := from₀.since.trans passage }⟩

/-- Only the opening of a runtime adds one. -/
theorem Event.isLive_runtime {e : Event} (other : ∀ options, e ≠ .openRuntime options) {h : Heap}
    {rt : RuntimeRef} (live : (e.apply h).runtimes.isLive rt = true) :
    h.runtimes.isLive rt = true := by
  have outside := Event.frame e h
  cases e with
  | openRuntime options => exact absurd rfl (other options)
  | closeRuntime owner m =>
    rwa [apply, Update.setMetadataClass, Update.modifyRuntime, Arena.isLive_modify] at live
  | host owner name create =>
    rw [apply, Update.registerHost_apply] at live
    split at live
    · exact live
    · rwa [Arena.isLive_modify] at live
  | _ => rwa [outside.runtimes (by simp [footprint])] at live

/-- Is the object there, and the prototype of no class? -/
def Heap.Unbound (h : Heap) (o : ObjectRef) : Prop :=
  h.objects.isLive o = true ∧ (h.object o).boundClass = none

theorem Heap.Unbound.later {h h' : Heap} {o : ObjectRef} (unbound : h.Unbound o)
    (extended : h.Extends h') : h'.Unbound o :=
  ⟨extended.objects.isLive unbound.1, (extended.object unbound.1).boundClass.trans unbound.2⟩

/-- A passage after which each new runtime was built, and no new descriptor stands on the prototype
of a class. -/
structure Passes (watch : Watch) (h h' : Heap) : Prop where
  passage : Passage watch h h'
  built : ∀ rt, h'.runtimes.isLive rt = true → ¬ h.runtimes.isLive rt = true → h'.Built watch rt
  unbound : ∀ d, h'.descriptors.isLive d = true → ¬ h.descriptors.isLive d = true →
    h'.Unbound (h'.descriptor d).object

namespace Passes

variable {watch : Watch} {h h' h'' : Heap} {e : Event}

theorem trace (passes : Passes watch h h') : ∃ es, Trace watch h es h' := passes.passage.trace

theorem extended (passes : Passes watch h h') : h.Extends h' := passes.passage.extended

theorem reached (passes : Passes watch h h') (reached : h.Reached watch) : h'.Reached watch :=
  passes.passage.reached reached

/-- A passage that adds no runtime and no descriptor. -/
theorem of_passage (passage : Passage watch h h')
    (runtimes : ∀ rt, h'.runtimes.isLive rt = true → h.runtimes.isLive rt = true)
    (descriptors : h'.descriptors = h.descriptors) : Passes watch h h' := by
  refine ⟨passage, fun rt live new => absurd (runtimes rt live) new, fun d live new => ?_⟩
  rw [descriptors] at live
  exact absurd live new

theorem refl (watch : Watch) (h : Heap) : Passes watch h h :=
  of_passage (.refl watch h) (fun _ live => live) rfl

theorem trans (first : Passes watch h h') (second : Passes watch h' h'') : Passes watch h h'' := by
  refine ⟨first.passage.trans second.passage, fun rt live new => ?_, fun d live new => ?_⟩
  · by_cases between : h'.runtimes.isLive rt = true
    · exact (first.built rt between new).later second.passage
    · exact second.built rt live between
  · by_cases between : h'.descriptors.isLive d = true
    · rw [second.extended.descriptor between]
      exact (first.unbound d between new).later second.extended
    · exact second.unbound d live between

theorem of_event (allowed : e.Allowed watch h) (ordinary : e.Ordinary) :
    Passes watch h (e.apply h) := by
  refine of_passage (.of_event allowed ordinary.builds) (fun _ => Event.isLive_runtime ?_)
    (Event.descriptors_eq ?_ h)
  · rintro options rfl
    exact ordinary
  · rintro c cell rfl
    exact ordinary

/-- The recording of a descriptor whose object is no prototype of a class. -/
theorem record {c : ClassRef} {cell : DescriptorCell} (describes : Describes watch h c cell)
    (unbound : h.Unbound cell.object) : Passes watch h (Update.recordDescriptor c cell h).2 := by
  have recorded : Passage watch h (Update.recordDescriptor c cell h).2 :=
    .of_event (e := .describe c cell) describes id
  refine ⟨recorded, fun rt live new => absurd live new, fun d live new => ?_⟩
  obtain ⟨_, made⟩ := (Update.isLive_recordDescriptor live).resolve_left new
  rw [made]
  exact unbound.later recorded.extended

/-- The objects of descriptors go on to be prototypes of no class. -/
theorem all_unbound (passes : Passes watch h h')
    (all : ∀ d, h.descriptors.isLive d = true → h.Unbound (h.descriptor d).object) :
    ∀ d, h'.descriptors.isLive d = true → h'.Unbound (h'.descriptor d).object := by
  intro d live
  by_cases old : h.descriptors.isLive d = true
  · rw [passes.extended.descriptor old]
    exact (all d old).later passes.extended
  · exact passes.unbound d live old

/-- What was built stays so, and what is new was built. -/
theorem all_built (passes : Passes watch h h')
    (all : ∀ rt, h.runtimes.isLive rt = true → h.Built watch rt) :
    ∀ rt, h'.runtimes.isLive rt = true → h'.Built watch rt := by
  intro rt live
  by_cases old : h.runtimes.isLive rt = true
  · exact (all rt old).later passes.passage
  · exact passes.built rt live old

end Passes

/-- Descriptors that were made since have objects that were made since. -/
def Heap.FreshlyDescribed (h h' : Heap) : Prop :=
  ∀ d, h'.descriptors.isLive d = true → ¬ h.descriptors.isLive d = true →
    ¬ h.objects.isLive (h'.descriptor d).object = true

structure Leads (watch : Watch) (h h' : Heap) : Prop extends Passes watch h h' where
  fresh : h.FreshlyDescribed h'

namespace Leads

variable {watch : Watch} {h h' h'' : Heap} {e : Event}

/-- A passage that makes no descriptors. -/
theorem of_passes (passes : Passes watch h h') (same : h'.descriptors = h.descriptors) :
    Leads watch h h' := by
  refine ⟨passes, fun d live new => ?_⟩
  rw [same] at live
  exact absurd live new

theorem refl (watch : Watch) (h : Heap) : Leads watch h h :=
  of_passes (.refl watch h) rfl

theorem trans (first : Leads watch h h') (second : Leads watch h' h'') : Leads watch h h'' := by
  refine ⟨first.toPasses.trans second.toPasses, fun d live new => ?_⟩
  by_cases between : h'.descriptors.isLive d = true
  · rw [second.extended.descriptor between]
    exact first.fresh d between new
  · exact fun old => second.fresh d live between (first.extended.objects.isLive old)

theorem of_event (allowed : e.Allowed watch h) (ordinary : e.Ordinary) : Leads watch h (e.apply h) := by
  refine of_passes (.of_event allowed ordinary) (Event.descriptors_eq ?_ h)
  rintro c cell rfl
  exact ordinary

/-- A descriptor may be recorded at the end, on an object that was made on the way. -/
theorem record (leads : Leads watch h h') {c : ClassRef} {cell : DescriptorCell}
    (recorded : Passes watch h' (Update.recordDescriptor c cell h').2)
    (new : ¬ h.objects.isLive cell.object = true) :
    Leads watch h (Update.recordDescriptor c cell h').2 := by
  refine ⟨leads.toPasses.trans recorded, fun d live older => ?_⟩
  rcases Update.isLive_recordDescriptor live with there | ⟨_, made⟩
  · rw [recorded.extended.descriptor there]
    exact leads.fresh d there older
  · rw [made]
    exact new

end Leads

end ProtoClass
