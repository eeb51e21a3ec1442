import ProtoClass.Proofs.Arena
import ProtoClass.Proofs.Event

set_option autoImplicit false

/- Nothing is ever taken away from a heap, and most of what a cell holds never changes. `Heap.Extends`
says so of an earlier and a later heap; every event keeps to it, and so does every trace. -/
namespace ProtoClass

/-- The prototype and the bound class of an object are fixed; so is its identity, once it has one. -/
structure ObjectCell.Becomes (x y : ObjectCell) : Prop where
  prototype : y.prototype = x.prototype
  boundClass : y.boundClass = x.boundClass
  identity : ∀ id, x.identity = some id → y.identity = some id

structure FunctionCell.Becomes (x y : FunctionCell) : Prop where
  name : y.name = x.name
  code : y.code = x.code
  identity : ∀ id, x.identity = some id → y.identity = some id

structure StringCell.Becomes (x y : StringCell) : Prop where
  units : y.units = x.units
  hash : ∀ n, x.hash = some n → y.hash = some n

/-- A class keeps everything, and its descriptor too, once it has one. -/
structure ClassCell.Becomes (x y : ClassCell) : Prop where
  name : y.name = x.name
  superclass : y.superclass = x.superclass
  prototype : y.prototype = x.prototype
  statics : y.statics = x.statics
  annotations : y.annotations = x.annotations
  descriptor : ∀ d, x.descriptor = some d → y.descriptor = some d

/-- A runtime keeps everything; host types are added at the end. -/
structure RuntimeCell.Becomes (x y : RuntimeCell) : Prop where
  options : y.options = x.options
  counter : y.counter = x.counter
  registry : y.registry = x.registry
  hosts : ∃ more, y.hosts = x.hosts ++ more
  root : y.root = x.root
  metadataClass : ∀ m, x.metadataClass = some m → y.metadataClass = some m

theorem ObjectCell.Becomes.refl (x : ObjectCell) : x.Becomes x := ⟨rfl, rfl, fun _ kept => kept⟩

theorem ObjectCell.Becomes.trans {x y z : ObjectCell} (first : x.Becomes y) (second : y.Becomes z) :
    x.Becomes z :=
  ⟨second.prototype.trans first.prototype, second.boundClass.trans first.boundClass,
    fun id kept => second.identity id (first.identity id kept)⟩

theorem FunctionCell.Becomes.refl (x : FunctionCell) : x.Becomes x := ⟨rfl, rfl, fun _ kept => kept⟩

theorem FunctionCell.Becomes.trans {x y z : FunctionCell} (first : x.Becomes y)
    (second : y.Becomes z) : x.Becomes z :=
  ⟨second.name.trans first.name, second.code.trans first.code,
    fun id kept => second.identity id (first.identity id kept)⟩

theorem StringCell.Becomes.refl (x : StringCell) : x.Becomes x := ⟨rfl, fun _ kept => kept⟩

theorem StringCell.Becomes.trans {x y z : StringCell} (first : x.Becomes y) (second : y.Becomes z) :
    x.Becomes z :=
  ⟨second.units.trans first.units, fun n kept => second.hash n (first.hash n kept)⟩

theorem ClassCell.Becomes.refl (x : ClassCell) : x.Becomes x :=
  ⟨rfl, rfl, rfl, rfl, rfl, fun _ kept => kept⟩

theorem ClassCell.Becomes.trans {x y z : ClassCell} (first : x.Becomes y) (second : y.Becomes z) :
    x.Becomes z :=
  ⟨second.name.trans first.name, second.superclass.trans first.superclass,
    second.prototype.trans first.prototype, second.statics.trans first.statics,
    second.annotations.trans first.annotations,
    fun d kept => second.descriptor d (first.descriptor d kept)⟩

theorem RuntimeCell.Becomes.refl (x : RuntimeCell) : x.Becomes x :=
  ⟨rfl, rfl, rfl, ⟨[], by simp⟩, rfl, fun _ kept => kept⟩

theorem RuntimeCell.Becomes.trans {x y z : RuntimeCell} (first : x.Becomes y)
    (second : y.Becomes z) : x.Becomes z := by
  obtain ⟨more, hosts⟩ := first.hosts
  obtain ⟨others, later⟩ := second.hosts
  exact ⟨second.options.trans first.options, second.counter.trans first.counter,
    second.registry.trans first.registry, ⟨more ++ others, by rw [later, hosts, List.append_assoc]⟩,
    second.root.trans first.root,
    fun m kept => second.metadataClass m (first.metadataClass m kept)⟩

/-- The later heap has everything that the earlier one had. -/
structure Heap.Extends (h h' : Heap) : Prop where
  objects : h.objects.Extends ObjectCell.Becomes h'.objects
  functions : h.functions.Extends FunctionCell.Becomes h'.functions
  strings : h.strings.Extends StringCell.Becomes h'.strings
  classes : h.classes.Extends ClassCell.Becomes h'.classes
  descriptors : h.descriptors.Extends (fun x y => y = x) h'.descriptors
  counters : h.counters.Extends (fun _ _ => True) h'.counters
  registries : h.registries.Extends (fun _ _ => True) h'.registries
  runtimes : h.runtimes.Extends RuntimeCell.Becomes h'.runtimes

namespace Heap.Extends

theorem refl (h : Heap) : h.Extends h where
  objects := .refl .refl _
  functions := .refl .refl _
  strings := .refl .refl _
  classes := .refl .refl _
  descriptors := fun _ x stored => ⟨x, stored, rfl⟩
  counters := .refl (fun _ => trivial) _
  registries := .refl (fun _ => trivial) _
  runtimes := .refl .refl _

theorem trans {h₁ h₂ h₃ : Heap} (first : h₁.Extends h₂) (second : h₂.Extends h₃) :
    h₁.Extends h₃ where
  objects := first.objects.trans (fun _ _ _ => .trans) second.objects
  functions := first.functions.trans (fun _ _ _ => .trans) second.functions
  strings := first.strings.trans (fun _ _ _ => .trans) second.strings
  classes := first.classes.trans (fun _ _ _ => .trans) second.classes
  descriptors := first.descriptors.trans (fun _ _ _ xy yz => yz.trans xy) second.descriptors
  counters := first.counters.trans (fun _ _ _ _ _ => trivial) second.counters
  registries := first.registries.trans (fun _ _ _ _ _ => trivial) second.registries
  runtimes := first.runtimes.trans (fun _ _ _ => .trans) second.runtimes

variable {h h' : Heap}

section Cells

variable (extended : h.Extends h')
include extended

theorem object {o : ObjectRef} (live : h.objects.isLive o = true) :
    (h.object o).Becomes (h'.object o) :=
  extended.objects.get live

theorem function {f : FunctionRef} (live : h.functions.isLive f = true) :
    (h.function f).Becomes (h'.function f) :=
  extended.functions.get live

theorem string {s : StringRef} (live : h.strings.isLive s = true) :
    (h.string s).Becomes (h'.string s) :=
  extended.strings.get live

theorem klass {c : ClassRef} (live : h.classes.isLive c = true) :
    (h.klass c).Becomes (h'.klass c) :=
  extended.classes.get live

theorem descriptor {d : DescriptorRef} (live : h.descriptors.isLive d = true) :
    h'.descriptor d = h.descriptor d :=
  extended.descriptors.get live

theorem runtime {rt : RuntimeRef} (live : h.runtimes.isLive rt = true) :
    (h.runtime rt).Becomes (h'.runtime rt) :=
  extended.runtimes.get live

/-- The descriptor of a superclass stays that. -/
theorem superclassDescriptor {c : ClassRef} (live : h.classes.isLive c = true)
    {superclass : Option DescriptorRef} (parent : h.SuperclassDescriptor c superclass)
    (there : ∀ s, (h.klass c).superclass = some s → h.classes.isLive s = true) :
    h'.SuperclassDescriptor c superclass := by
  cases superclass with
  | none => exact (extended.klass live).superclass.trans parent
  | some e =>
    obtain ⟨s, link, described⟩ := parent
    exact ⟨s, (extended.klass live).superclass.trans link,
      (extended.klass (there s link)).descriptor e described⟩

end Cells

theorem hasValue (extended : h.Extends h') {v : Value} (live : h.hasValue v = true) :
    h'.hasValue v = true := by
  cases v with
  | string s => exact extended.strings.isLive live
  | object o => exact extended.objects.isLive live
  | function f => exact extended.functions.isLive live
  | klass c => exact extended.classes.isLive live
  | _ => rfl

theorem hasValues (extended : h.Extends h') {vs : List Value} (live : vs.all h.hasValue = true) :
    vs.all h'.hasValue = true := by
  rw [List.all_eq_true] at live ⊢
  exact fun v member => extended.hasValue (live v member)

end Heap.Extends

namespace Heap

theorem extends_mapProperties (h : Heap) (o : ObjectRef) (f : PropertyTable → PropertyTable) :
    h.Extends (h.mapProperties o f) :=
  { Extends.refl h with
    objects := Arena.extends_modify .refl fun _ _ => ⟨rfl, rfl, fun _ kept => kept⟩ }

theorem extends_keep (h : Heap) (x : Slot) (id : Identity) (empty : h.kept x = none) :
    h.Extends (h.keep x id) := by
  cases x with
  | object o =>
    refine { Extends.refl h with objects := Arena.extends_modify .refl ?_ }
    intro cell stored
    refine ⟨rfl, rfl, fun id' kept => ?_⟩
    rw [← Arena.get_of_get? stored] at kept
    exact absurd (empty.symm.trans kept) nofun
  | function f =>
    refine { Extends.refl h with functions := Arena.extends_modify .refl ?_ }
    intro cell stored
    refine ⟨rfl, rfl, fun id' kept => ?_⟩
    rw [← Arena.get_of_get? stored] at kept
    exact absurd (empty.symm.trans kept) nofun

theorem extends_identityOf (h : Heap) (k : CounterRef) (x : Identified) :
    h.Extends (Update.identityOf k x h).2 := by
  rw [Update.identityOf_apply]
  cases filled : h.kept (h.slot x) with
  | some id => exact .refl h
  | none =>
    dsimp only
    split
    · exact .refl h
    · have counted : h.Extends (h.advance k) :=
        { Extends.refl h with
          counters := Arena.extends_modify (fun _ => trivial) fun _ _ => trivial }
      exact counted.trans (extends_keep _ _ _ filled)

theorem extends_hashOf (h : Heap) (s : StringRef) : h.Extends (Update.hashOf s h).2 := by
  rw [Update.hashOf_apply]
  cases filled : (h.string s).hash with
  | some n => exact .refl h
  | none =>
    refine { Extends.refl h with strings := Arena.extends_modify .refl ?_ }
    intro cell stored
    refine ⟨rfl, fun n kept => ?_⟩
    rw [← Arena.get_of_get? stored] at kept
    exact absurd (filled.symm.trans kept) nofun

theorem extends_register (h : Heap) (r : RegistryRef) (c : ClassRef) :
    h.Extends (Update.register r c h).2 := by
  rw [Update.register_apply]
  exact { Extends.refl h with
    registries := Arena.extends_modify (fun _ => trivial) fun _ _ => trivial }

theorem extends_registerHost (h : Heap) (rt : RuntimeRef) (name : String)
    (create : Option FunctionRef) : h.Extends (Update.registerHost rt name create h).2 := by
  rw [Update.registerHost_apply]
  split
  · exact .refl h
  · exact { Extends.refl h with
      objects := ((Extends.refl h).objects.add _).add _
      runtimes := Arena.extends_modify .refl fun _ _ =>
        ⟨rfl, rfl, rfl, ⟨_, rfl⟩, rfl, fun _ kept => kept⟩ }

theorem extends_buildClass (h : Heap) (rt : RuntimeRef) (d : Definition) (superclass : ClassRef) :
    h.Extends (Update.buildClass rt d superclass h).2 := by
  rw [Update.buildClass_apply]
  exact { Extends.refl h with
    objects := (((Extends.refl h).objects.add _).add _).add _
    functions := (Extends.refl h).functions.add _
    classes := (Extends.refl h).classes.add _
    registries := Arena.extends_modify (fun _ => trivial) fun _ _ => trivial }

theorem extends_recordDescriptor (h : Heap) (c : ClassRef) (cell : DescriptorCell)
    (undescribed : (h.klass c).descriptor = none) :
    h.Extends (Update.recordDescriptor c cell h).2 := by
  rw [Update.recordDescriptor_apply]
  refine { Extends.refl h with
    descriptors := (Extends.refl h).descriptors.add _
    classes := Arena.extends_modify .refl ?_ }
  intro klass stored
  refine ⟨rfl, rfl, rfl, rfl, rfl, fun d kept => ?_⟩
  rw [← Arena.get_of_get? stored] at kept
  exact absurd (undescribed.symm.trans kept) nofun

theorem extends_openRuntime (h : Heap) (options : Options) :
    h.Extends (Update.openRuntime options h).2 := by
  rw [Update.openRuntime_apply]
  exact { Extends.refl h with
    objects := (((Extends.refl h).objects.add _).add _).add _
    classes := (Extends.refl h).classes.add _
    counters := (Extends.refl h).counters.add _
    registries := (Extends.refl h).registries.add _
    runtimes := (Extends.refl h).runtimes.add _ }

theorem extends_setMetadataClass (h : Heap) (rt : RuntimeRef) (m : ClassRef)
    (unset : (h.runtime rt).metadataClass = none) :
    h.Extends (Update.setMetadataClass rt m h).2 := by
  refine { Extends.refl h with runtimes := Arena.extends_modify .refl ?_ }
  intro cell stored
  refine ⟨rfl, rfl, rfl, ⟨[], by simp⟩, rfl, fun c kept => ?_⟩
  rw [← Arena.get_of_get? stored] at kept
  exact absurd (unset.symm.trans kept) nofun

theorem extends_changeProperties (h : Heap) (o : ObjectRef)
    (f : PropertyTable → Bool × PropertyTable) : h.Extends (Update.changeProperties o f h).2 := by
  rw [Update.changeProperties_heap]
  exact h.extends_mapProperties o _

theorem extends_install (h : Heap) (o : ObjectRef) (properties : List (String × Value)) :
    h.Extends (Update.install o properties h).2 := by
  obtain ⟨f, changed, _⟩ := Update.install_heap o properties h
  rw [changed]
  exact h.extends_mapProperties o f

end Heap

theorem Event.extends {watch : Watch} {h : Heap} {e : Event} (allowed : e.Allowed watch h) :
    h.Extends (e.apply h) := by
  cases e with
  | object prototype entries =>
    rw [apply, Update.newObjectOf_apply]
    exact { Heap.Extends.refl h with objects := (Heap.Extends.refl h).objects.add _ }
  | function name code =>
    exact { Heap.Extends.refl h with functions := (Heap.Extends.refl h).functions.add _ }
  | string units =>
    exact { Heap.Extends.refl h with strings := (Heap.Extends.refl h).strings.add _ }
  | counter => exact { Heap.Extends.refl h with counters := (Heap.Extends.refl h).counters.add _ }
  | registry =>
    exact { Heap.Extends.refl h with registries := (Heap.Extends.refl h).registries.add _ }
  | set o name value => exact h.extends_changeProperties o _
  | define o name value flags => exact h.extends_changeProperties o _
  | delete o name => exact h.extends_changeProperties o _
  | install o properties => exact h.extends_install o properties
  | identity k x => exact h.extends_identityOf k x
  | hash s => exact h.extends_hashOf s
  | register r c => exact h.extends_register r c
  | host rt name create => exact h.extends_registerHost rt name create
  | klass rt d s => exact h.extends_buildClass rt d s
  | describe c cell => exact h.extends_recordDescriptor c cell allowed.undescribed
  | openRuntime options => exact h.extends_openRuntime options
  | furnish o properties => exact h.extends_install o properties
  | closeRuntime rt m => exact h.extends_setMetadataClass rt m allowed.unset

theorem Trace.extends {watch : Watch} {h h' : Heap} {es : List Event} (trace : Trace watch h es h') :
    h.Extends h' :=
  trace.relation .refl (fun _ _ _ => .trans) fun _ _ allowed => Event.extends allowed

end ProtoClass
