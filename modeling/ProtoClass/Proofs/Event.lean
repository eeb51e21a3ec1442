import ProtoClass.Proofs.Effect
import ProtoClass.Run.Program

set_option autoImplicit false

/- Between two calls of functions the heap changes by events of a few kinds, each of which is an
operation that calls nothing. `Event.Allowed` says what is known when an event happens, and a trace
is a list of events that happen one after another. Everything that lasts over runs is proved event by
event. -/
namespace ProtoClass

namespace Heap

/-- Does the object stand for some descriptor? -/
def IsDescriptorObject (h : Heap) (o : ObjectRef) : Prop :=
  ∃ d, h.descriptors.isLive d = true ∧ (h.descriptor d).object = o

/-- Is the object the prototype of the metadata class of some runtime? -/
def IsMetadataPrototype (h : Heap) (o : ObjectRef) : Prop :=
  ∃ rt m, h.runtimes.isLive rt = true ∧ (h.runtime rt).metadataClass = some m ∧
    (h.klass m).prototype = o

/-- The properties with which the object of a descriptor is made. -/
def slotProperties (h : Heap) (cell : DescriptorCell) (name : StringRef) : List Property :=
  [⟨"name", .string name, .plain⟩, ⟨"prototype", .object cell.prototype, .plain⟩,
    ⟨"annotations", .object cell.annotations, .plain⟩,
    ⟨"superclass", h.spineValue cell.superclass, .plain⟩]

/-- Does the object of a descriptor hold what the descriptor says, and nothing else? -/
def Filled (h : Heap) (cell : DescriptorCell) : Prop :=
  ∃ name, h.strings.isLive name = true ∧ (h.string name).units = Utf16.encode cell.name ∧
    (h.object cell.object).properties.toList = h.slotProperties cell name

/-- Does a prototype have the members of descriptor objects, for this constructor prefix? -/
def Furnished (h : Heap) (o : ObjectRef) (constructorPrefix : String) : Prop :=
  ∀ entry ∈ Update.descriptorSurface constructorPrefix, ∃ f, h.functions.isLive f = true ∧
    h.getOwn o entry.1 = some (.function f) ∧ (h.function f).code = .builtin entry.2

end Heap

/-- Does a watch rule out that a program writes to descriptor objects or to prototypes of metadata
classes? -/
def Watch.SparesDescriptors (watch : Watch) : Prop :=
  ∀ h o, watch.mayWrite h o = true → ¬ h.IsDescriptorObject o ∧ ¬ h.IsMetadataPrototype o

inductive Event where
  | object (prototype : Option ObjectRef) (entries : List (String × Value))
  | function (name : String) (code : Code)
  | string (units : List UInt16)
  | counter
  | registry
  | set (o : ObjectRef) (name : String) (value : Value)
  | define (o : ObjectRef) (name : String) (value : Value) (flags : Flags)
  | delete (o : ObjectRef) (name : String)
  | install (o : ObjectRef) (properties : List (String × Value))
  | identity (counter : CounterRef) (x : Identified)
  | hash (s : StringRef)
  | register (registry : RegistryRef) (c : ClassRef)
  | host (rt : RuntimeRef) (name : String) (create : Option FunctionRef)
  | klass (rt : RuntimeRef) (definition : Definition) (superclass : ClassRef)
  | describe (c : ClassRef) (cell : DescriptorCell)
  -- the building of a runtime
  | openRuntime (options : Options)
  | furnish (o : ObjectRef) (properties : List (String × Value))
  | closeRuntime (rt : RuntimeRef) (metadata : ClassRef)

/-- Is this the descriptor of the superclass of a class, or none for a class without one? -/
def Heap.SuperclassDescriptor (h : Heap) (c : ClassRef) : Option DescriptorRef → Prop
  | some e => ∃ s, (h.klass c).superclass = some s ∧ (h.klass s).descriptor = some e
  | none => (h.klass c).superclass = none

/-- What is known when the descriptor of a class is recorded. -/
structure Describes (watch : Watch) (h : Heap) (c : ClassRef) (cell : DescriptorCell) : Prop where
  live : h.classes.isLive c = true
  undescribed : (h.klass c).descriptor = none
  name : cell.name = (h.klass c).name
  prototype : cell.prototype = (h.klass c).prototype
  annotations : cell.annotations = (h.klass c).annotations
  superclass : h.SuperclassDescriptor c cell.superclass
  object : h.objects.isLive cell.object = true
  unused : ¬ h.IsDescriptorObject cell.object
  made : ∃ o, h.IsMetadataPrototype o ∧ (h.object cell.object).prototype = some o
  filled : watch.SparesDescriptors → h.Filled cell

/-- What is known when a runtime gets its metadata class. -/
structure Closes (h : Heap) (rt : RuntimeRef) (metadata : ClassRef) : Prop where
  live : h.runtimes.isLive rt = true
  unset : (h.runtime rt).metadataClass = none
  class_live : h.classes.isLive metadata = true
  superclass : (h.klass metadata).superclass = some (h.runtime rt).root
  statics : (h.object (h.klass metadata).statics).prototype = some (h.rootPrototype rt)
  furnished : h.Furnished (h.klass metadata).prototype (h.runtime rt).options.constructorPrefix

namespace Event

/-- The heap that an event leaves. -/
def apply (h : Heap) : Event → Heap
  | object prototype entries => (Update.newObjectOf prototype entries h).2
  | function name code => (Update.newFunction name code h).2
  | string units => (Update.newString units h).2
  | counter => (Update.newCounter h).2
  | registry => (Update.newRegistry h).2
  | set o name value => (Update.set o name value h).2
  | define o name value flags => (Update.define o name value flags h).2
  | delete o name => (Update.delete o name h).2
  | install o properties => (Update.install o properties h).2
  | identity k x => (Update.identityOf k x h).2
  | hash s => (Update.hashOf s h).2
  | register r c => (Update.register r c h).2
  | host rt name create => (Update.registerHost rt name create h).2
  | klass rt d s => (Update.buildClass rt d s h).2
  | describe c cell => (Update.recordDescriptor c cell h).2
  | openRuntime options => (Update.openRuntime options h).2
  | furnish o properties => (Update.install o properties h).2
  | closeRuntime rt m => (Update.setMetadataClass rt m h).2

/-- What is known when an event happens under a watch. -/
def Allowed (watch : Watch) (h : Heap) : Event → Prop
  | object prototype entries =>
    (∀ p, prototype = some p → h.objects.isLive p = true) ∧ h.hasEntries entries = true
  | function _ _ => True
  | string _ => True
  | counter => True
  | registry => True
  | set o name value =>
    h.objects.isLive o = true ∧ h.hasValue value = true ∧
      ((Update.set o name value h).1 = true → watch.mayWrite h o = true)
  | define o name value flags =>
    h.objects.isLive o = true ∧ h.hasValue value = true ∧
      ((Update.define o name value flags h).1 = true → watch.mayWrite h o = true)
  | delete o name =>
    h.objects.isLive o = true ∧
      ((Update.delete o name h).1 = true → watch.mayWrite h o = true)
  | install o properties =>
    h.objects.isLive o = true ∧ h.hasEntries properties = true ∧
      ((Update.install o properties h).1 ≠ 0 → watch.mayWrite h o = true)
  | identity k x => h.counters.isLive k = true ∧ h.hasIdentified x = true
  | hash s => h.strings.isLive s = true
  | register r c =>
    h.registries.isLive r = true ∧ h.classes.isLive c = true ∧
      watch.mayAsk h (.register r c) = true
  | host rt _ create =>
    h.runtimes.isLive rt = true ∧ ∀ f, create = some f → h.functions.isLive f = true
  | klass rt d s =>
    h.runtimes.isLive rt = true ∧ h.hasDefinition d = true ∧
      (h.registryOf rt).resolve d.name d.superclass (h.runtime rt).root = .ok s
  | describe c cell => Describes watch h c cell
  | openRuntime _ => True
  | furnish o properties =>
    h.objects.isLive o = true ∧ h.hasEntries properties = true ∧
      ¬ h.IsDescriptorObject o ∧ ¬ h.IsMetadataPrototype o
  | closeRuntime rt m => Closes h rt m

/-- Is the event a request for an identity? -/
def IsIdentity : Event → Prop
  | identity _ _ => True
  | _ => False

end Event

/-- The later heap has the same things of all kinds but these. -/
structure Heap.SameOutside (kinds : List Kind) (h h' : Heap) : Prop where
  objects : .object ∉ kinds → h'.objects = h.objects
  functions : .function ∉ kinds → h'.functions = h.functions
  strings : .string ∉ kinds → h'.strings = h.strings
  classes : .klass ∉ kinds → h'.classes = h.classes
  descriptors : .descriptor ∉ kinds → h'.descriptors = h.descriptors
  counters : .counter ∉ kinds → h'.counters = h.counters
  registries : .registry ∉ kinds → h'.registries = h.registries
  runtimes : .runtime ∉ kinds → h'.runtimes = h.runtimes

theorem Heap.SameOutside.refl (kinds : List Kind) (h : Heap) : h.SameOutside kinds h :=
  ⟨fun _ => rfl, fun _ => rfl, fun _ => rfl, fun _ => rfl, fun _ => rfl, fun _ => rfl, fun _ => rfl,
    fun _ => rfl⟩

theorem Heap.SameOutside.trans {kinds : List Kind} {h h' h'' : Heap} (first : h.SameOutside kinds h')
    (second : h'.SameOutside kinds h'') : h.SameOutside kinds h'' where
  objects other := (second.objects other).trans (first.objects other)
  functions other := (second.functions other).trans (first.functions other)
  strings other := (second.strings other).trans (first.strings other)
  classes other := (second.classes other).trans (first.classes other)
  descriptors other := (second.descriptors other).trans (first.descriptors other)
  counters other := (second.counters other).trans (first.counters other)
  registries other := (second.registries other).trans (first.registries other)
  runtimes other := (second.runtimes other).trans (first.runtimes other)

theorem Heap.SameOutside.mono {kinds more : List Kind} {h h' : Heap} (same : h.SameOutside kinds h')
    (within : kinds ⊆ more) : h.SameOutside more h' where
  objects other := same.objects fun among => other (within among)
  functions other := same.functions fun among => other (within among)
  strings other := same.strings fun among => other (within among)
  classes other := same.classes fun among => other (within among)
  descriptors other := same.descriptors fun among => other (within among)
  counters other := same.counters fun among => other (within among)
  registries other := same.registries fun among => other (within among)
  runtimes other := same.runtimes fun among => other (within among)

namespace Event

/-- The kinds of things that an event makes or changes. -/
def footprint : Event → List Kind
  | object _ _ => [.object]
  | function _ _ => [.function]
  | string _ => [.string]
  | counter => [.counter]
  | registry => [.registry]
  | set _ _ _ => [.object]
  | define _ _ _ _ => [.object]
  | delete _ _ => [.object]
  | install _ _ => [.object]
  | identity _ _ => [.counter, .object, .function]
  | hash _ => [.string]
  | register _ _ => [.registry]
  | host _ _ _ => [.object, .runtime]
  | klass _ _ _ => [.object, .function, .klass, .registry]
  | describe _ _ => [.klass, .descriptor]
  | openRuntime _ => [.object, .klass, .counter, .registry, .runtime]
  | furnish _ _ => [.object]
  | closeRuntime _ _ => [.runtime]

/-- The object whose properties an event writes. -/
def written : Event → Option ObjectRef
  | set o _ _ => some o
  | define o _ _ _ => some o
  | delete o _ => some o
  | install o _ => some o
  | furnish o _ => some o
  | _ => none

/-- An event that writes properties does nothing else. -/
theorem apply_of_written {e : Event} {o : ObjectRef} (written : e.written = some o) (h : Heap) :
    ∃ f : PropertyTable → PropertyTable, e.apply h = h.mapProperties o f := by
  cases e with
  | set | define | delete =>
    cases written
    exact ⟨_, Update.changeProperties_heap o _ h⟩
  | install p properties | furnish p properties =>
    cases written
    obtain ⟨f, changed, _⟩ := Update.install_heap o properties h
    exact ⟨f, changed⟩
  | _ => cases written

/-- An event leaves alone what is not in its footprint. -/
theorem frame (e : Event) (h : Heap) : h.SameOutside e.footprint (e.apply h) := by
  have same := fun kinds => Heap.SameOutside.refl kinds h
  have touched : ∀ {k : Kind} {kinds : List Kind} {p : Prop}, k ∈ kinds → k ∉ kinds → p :=
    fun inside outside => absurd inside outside
  have writes := fun o (written : e.written = some o) => apply_of_written written h
  cases e with
  | object prototype entries =>
    rw [apply, Update.newObjectOf_apply]
    exact { same [.object] with objects := touched (by simp [footprint]) }
  | function name code => exact { same [.function] with functions := touched (by simp [footprint]) }
  | string units => exact { same [.string] with strings := touched (by simp [footprint]) }
  | counter => exact { same [.counter] with counters := touched (by simp [footprint]) }
  | registry => exact { same [.registry] with registries := touched (by simp [footprint]) }
  | set o | define o | delete o | install o | furnish o =>
    obtain ⟨f, changed⟩ := writes o rfl
    rw [changed]
    exact { same [.object] with objects := touched (by simp [footprint]) }
  | identity k x =>
    rw [apply, Update.identityOf_apply]
    split
    · exact same _
    · split
      · exact same _
      · cases h.slot x with
        | object o =>
          exact { same [.counter, .object, .function] with
            counters := touched (by simp [footprint]), objects := touched (by simp [footprint]) }
        | function f =>
          exact { same [.counter, .object, .function] with
            counters := touched (by simp [footprint]), functions := touched (by simp [footprint]) }
  | hash s =>
    rw [apply, Update.hashOf_apply]
    split
    · exact same _
    · exact { same [.string] with strings := touched (by simp [footprint]) }
  | register r c => exact { same [.registry] with registries := touched (by simp [footprint]) }
  | host rt name create =>
    rw [apply, Update.registerHost_apply]
    split
    · exact same _
    · exact { same [.object, .runtime] with
        objects := touched (by simp [footprint]), runtimes := touched (by simp [footprint]) }
  | klass rt d s =>
    rw [apply, Update.buildClass_apply]
    exact { same [.object, .function, .klass, .registry] with
      objects := touched (by simp [footprint]), functions := touched (by simp [footprint])
      classes := touched (by simp [footprint]), registries := touched (by simp [footprint]) }
  | describe c cell =>
    exact { same [.klass, .descriptor] with
      classes := touched (by simp [footprint]), descriptors := touched (by simp [footprint]) }
  | openRuntime options =>
    rw [apply, Update.openRuntime_apply]
    exact { same [.object, .klass, .counter, .registry, .runtime] with
      objects := touched (by simp [footprint]), classes := touched (by simp [footprint])
      counters := touched (by simp [footprint]), registries := touched (by simp [footprint])
      runtimes := touched (by simp [footprint]) }
  | closeRuntime rt m => exact { same [.runtime] with runtimes := touched (by simp [footprint]) }

end Event

/-- Events that happen one after another, from one heap to another one. -/
inductive Trace (watch : Watch) : Heap → List Event → Heap → Prop where
  | nil (h : Heap) : Trace watch h [] h
  | cons {h h' : Heap} {e : Event} {es : List Event} (first : e.Allowed watch h)
      (rest : Trace watch (e.apply h) es h') : Trace watch h (e :: es) h'

namespace Trace

variable {watch : Watch} {h h' h'' : Heap} {e : Event} {es es' : List Event}

theorem single (allowed : e.Allowed watch h) : Trace watch h [e] (e.apply h) :=
  .cons allowed (.nil _)

theorem append (first : Trace watch h es h') (second : Trace watch h' es' h'') :
    Trace watch h (es ++ es') h'' := by
  induction first with
  | nil => exact second
  | cons allowed _ ih => exact .cons allowed (ih second)

theorem snoc (first : Trace watch h es h') (allowed : e.Allowed watch h') :
    Trace watch h (es ++ [e]) (e.apply h') :=
  first.append (single allowed)

/-- What every event keeps, a trace keeps. -/
theorem invariant {P : Heap → Prop}
    (kept : ∀ (h : Heap) (e : Event), P h → e.Allowed watch h → P (e.apply h))
    (trace : Trace watch h es h') (initial : P h) : P h' := by
  induction trace with
  | nil => exact initial
  | cons allowed _ ih => exact ih (kept _ _ initial allowed)

/-- A relation that holds over every event holds over a trace. -/
theorem relation {R : Heap → Heap → Prop} (refl : ∀ h, R h h)
    (trans : ∀ h₁ h₂ h₃, R h₁ h₂ → R h₂ h₃ → R h₁ h₃)
    (kept : ∀ (h : Heap) (e : Event), e.Allowed watch h → R h (e.apply h))
    (trace : Trace watch h es h') : R h h' := by
  induction trace with
  | nil => exact refl _
  | cons allowed _ ih => exact trans _ _ _ (kept _ _ allowed) ih

end Trace

/-- The heaps that events lead to from the empty one. -/
def Heap.Reached (watch : Watch) (h : Heap) : Prop := ∃ es, Trace watch {} es h

theorem Heap.Reached.invariant {watch : Watch} {P : Heap → Prop} (initial : P {})
    (kept : ∀ (h : Heap) (e : Event), P h → e.Allowed watch h → P (e.apply h)) {h : Heap}
    (reached : h.Reached watch) : P h := by
  obtain ⟨es, trace⟩ := reached
  exact trace.invariant kept initial

end ProtoClass
