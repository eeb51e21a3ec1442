import ProtoClass.Proofs.Extends

set_option autoImplicit false

/- A heap is closed when everything that a cell names is in the heap, and when what a thing delegates
to is older than the thing. No cell of a closed heap can become wrong later, because nothing is
taken away; so an event keeps a heap closed as soon as the cells that it writes are right. -/
namespace ProtoClass

structure ObjectCell.Closed (h : Heap) (o : ObjectRef) (cell : ObjectCell) : Prop where
  properties : ∀ p ∈ cell.properties.toList, h.hasValue p.value = true
  prototype : ∀ p, cell.prototype = some p → p.id < o.id
  boundClass : ∀ c, cell.boundClass = some c → h.classes.isLive c = true

structure ClassCell.Closed (h : Heap) (c : ClassRef) (cell : ClassCell) : Prop where
  superclass : ∀ s, cell.superclass = some s → s.id < c.id
  prototype : h.objects.isLive cell.prototype = true
  statics : h.objects.isLive cell.statics = true
  annotations : h.objects.isLive cell.annotations = true
  descriptor : ∀ d, cell.descriptor = some d → h.descriptors.isLive d = true

structure DescriptorCell.Closed (h : Heap) (d : DescriptorRef) (cell : DescriptorCell) : Prop where
  object : h.objects.isLive cell.object = true
  prototype : h.objects.isLive cell.prototype = true
  annotations : h.objects.isLive cell.annotations = true
  superclass : ∀ e, cell.superclass = some e → e.id < d.id

structure HostType.Closed (h : Heap) (host : HostType) : Prop where
  constructor : h.objects.isLive host.constructor = true
  prototype : h.objects.isLive host.prototype = true
  create : ∀ f, host.create = some f → h.functions.isLive f = true

structure RuntimeCell.Closed (h : Heap) (cell : RuntimeCell) : Prop where
  counter : h.counters.isLive cell.counter = true
  registry : h.registries.isLive cell.registry = true
  root : h.classes.isLive cell.root = true
  hosts : ∀ entry ∈ cell.hosts, entry.2.Closed h
  metadataClass : ∀ m, cell.metadataClass = some m → h.classes.isLive m = true

def Registry.Closed (h : Heap) (r : Registry) : Prop :=
  ∀ name c, r.get? name = some c → h.classes.isLive c = true

section Later

variable {h h' : Heap} (extended : h.Extends h')
include extended

theorem ObjectCell.Closed.later {o : ObjectRef} {cell : ObjectCell} (closed : cell.Closed h o) :
    cell.Closed h' o where
  properties p member := extended.hasValue (closed.properties p member)
  prototype := closed.prototype
  boundClass c bound := extended.classes.isLive (closed.boundClass c bound)

theorem ClassCell.Closed.later {c : ClassRef} {cell : ClassCell} (closed : cell.Closed h c) :
    cell.Closed h' c where
  superclass := closed.superclass
  prototype := extended.objects.isLive closed.prototype
  statics := extended.objects.isLive closed.statics
  annotations := extended.objects.isLive closed.annotations
  descriptor d described := extended.descriptors.isLive (closed.descriptor d described)

theorem DescriptorCell.Closed.later {d : DescriptorRef} {cell : DescriptorCell}
    (closed : cell.Closed h d) : cell.Closed h' d where
  object := extended.objects.isLive closed.object
  prototype := extended.objects.isLive closed.prototype
  annotations := extended.objects.isLive closed.annotations
  superclass := closed.superclass

theorem HostType.Closed.later {host : HostType} (closed : host.Closed h) : host.Closed h' where
  constructor := extended.objects.isLive closed.constructor
  prototype := extended.objects.isLive closed.prototype
  create f made := extended.functions.isLive (closed.create f made)

theorem RuntimeCell.Closed.later {cell : RuntimeCell} (closed : cell.Closed h) :
    cell.Closed h' where
  counter := extended.counters.isLive closed.counter
  registry := extended.registries.isLive closed.registry
  root := extended.classes.isLive closed.root
  hosts entry member := (closed.hosts entry member).later extended
  metadataClass m set := extended.classes.isLive (closed.metadataClass m set)

theorem Registry.Closed.later {r : Registry} (closed : r.Closed h) : r.Closed h' :=
  fun name c registered => extended.classes.isLive (closed name c registered)

end Later

namespace Heap

/-- Everything that a cell of the first heap names is in the second one. -/
structure ClosedIn (h h' : Heap) : Prop where
  objects : h.objects.All (ObjectCell.Closed h')
  classes : h.classes.All (ClassCell.Closed h')
  descriptors : h.descriptors.All (DescriptorCell.Closed h')
  registries : h.registries.All fun _ => Registry.Closed h'
  runtimes : h.runtimes.All fun _ => RuntimeCell.Closed h'

/-- Everything that a cell names is there. -/
def Closed (h : Heap) : Prop := h.ClosedIn h

theorem closed_empty : Closed {} where
  objects := Arena.all_empty _
  classes := Arena.all_empty _
  descriptors := Arena.all_empty _
  registries := Arena.all_empty _
  runtimes := Arena.all_empty _

theorem Closed.later {h h' : Heap} (closed : h.Closed) (extended : h.Extends h') :
    h.ClosedIn h' where
  objects := closed.objects.mono fun _ _ => .later extended
  classes := closed.classes.mono fun _ _ => .later extended
  descriptors := closed.descriptors.mono fun _ _ => .later extended
  registries := closed.registries.mono fun _ _ => .later extended
  runtimes := closed.runtimes.mono fun _ _ => .later extended

namespace Closed

variable {h : Heap} (closed : h.Closed)
include closed

theorem object {o : ObjectRef} (live : h.objects.isLive o = true) :
    (h.object o).Closed h o :=
  closed.objects.get live

theorem klass {c : ClassRef} (live : h.classes.isLive c = true) : (h.klass c).Closed h c :=
  closed.classes.get live

theorem descriptor {d : DescriptorRef} (live : h.descriptors.isLive d = true) :
    (h.descriptor d).Closed h d :=
  closed.descriptors.get live

theorem runtime {rt : RuntimeRef} (live : h.runtimes.isLive rt = true) :
    (h.runtime rt).Closed h :=
  closed.runtimes.get live

theorem prototype_older {o p : ObjectRef} (link : (h.object o).prototype = some p) :
    p.id < o.id ∧ h.objects.isLive p = true := by
  by_cases live : h.objects.isLive o = true
  · have older := (closed.object live).prototype p link
    refine ⟨older, ?_⟩
    rw [Arena.isLive_iff] at live ⊢
    omega
  · rw [Heap.object, Arena.get_of_not_isLive live] at link
    cases link

theorem superclass_older {c s : ClassRef} (link : (h.klass c).superclass = some s) :
    s.id < c.id ∧ h.classes.isLive s = true := by
  by_cases live : h.classes.isLive c = true
  · have older := (closed.klass live).superclass s link
    refine ⟨older, ?_⟩
    rw [Arena.isLive_iff] at live ⊢
    omega
  · rw [Heap.klass, Arena.get_of_not_isLive live] at link
    cases link

theorem spine_older {d e : DescriptorRef} (link : (h.descriptor d).superclass = some e) :
    e.id < d.id ∧ h.descriptors.isLive e = true := by
  by_cases live : h.descriptors.isLive d = true
  · have older := (closed.descriptor live).superclass e link
    refine ⟨older, ?_⟩
    rw [Arena.isLive_iff] at live ⊢
    omega
  · rw [Heap.descriptor, Arena.get_of_not_isLive live] at link
    cases link

theorem bound_live {o : ObjectRef} {c : ClassRef} (bound : (h.object o).boundClass = some c) :
    h.classes.isLive c = true := by
  by_cases live : h.objects.isLive o = true
  · exact (closed.object live).boundClass c bound
  · rw [Heap.object, Arena.get_of_not_isLive live] at bound
    cases bound

theorem descriptor_live {c : ClassRef} {d : DescriptorRef}
    (described : (h.klass c).descriptor = some d) : h.descriptors.isLive d = true := by
  by_cases live : h.classes.isLive c = true
  · exact (closed.klass live).descriptor d described
  · rw [Heap.klass, Arena.get_of_not_isLive live] at described
    cases described

theorem own_live {o : ObjectRef} {name : String} {v : Value} (found : h.getOwn o name = some v) :
    h.hasValue v = true := by
  by_cases live : h.objects.isLive o = true
  · obtain ⟨p, stored, rfl⟩ := Option.map_eq_some_iff.1 found
    exact (closed.object live).properties p (PropertyTable.get?_eq_some_iff.1 stored).1
  · rw [getOwn, ownProperty, Heap.object, Arena.get_of_not_isLive live] at found
    exact absurd found (by simp [default, PropertyTable.get?_empty])

theorem get_live {o : ObjectRef} {name : String} {v : Value} (found : h.get o name = some v) :
    h.hasValue v = true := by
  obtain ⟨p, _, own⟩ := List.exists_of_findSome?_eq_some found
  exact closed.own_live own

theorem owningClass_live {o : ObjectRef} {c : ClassRef} (owned : h.owningClass o = some c) :
    h.classes.isLive c = true := by
  obtain ⟨p, _, bound⟩ := List.exists_of_findSome?_eq_some owned
  exact closed.bound_live bound

theorem root_live {rt : RuntimeRef} (live : h.runtimes.isLive rt = true) :
    h.classes.isLive (h.runtime rt).root = true :=
  (closed.runtime live).root

theorem rootPrototype_live {rt : RuntimeRef} (live : h.runtimes.isLive rt = true) :
    h.objects.isLive (h.rootPrototype rt) = true :=
  (closed.klass (closed.root_live live)).prototype

theorem classNamed_live {rt : RuntimeRef} {name : String} {c : ClassRef}
    (live : h.runtimes.isLive rt = true) (registered : h.classNamed rt name = some c) :
    h.classes.isLive c = true :=
  closed.registries.get (closed.runtime live).registry name c registered

theorem resolve_live {rt : RuntimeRef} {name superclass : String} {s : ClassRef}
    (live : h.runtimes.isLive rt = true)
    (resolved : (h.registryOf rt).resolve name superclass (h.runtime rt).root = .ok s) :
    h.classes.isLive s = true := by
  unfold Registry.resolve at resolved
  split at resolved
  · cases resolved
    exact closed.root_live live
  · split at resolved
    · next registered =>
      cases resolved
      exact closed.classNamed_live live registered
    · cases resolved

theorem host_closed {rt : RuntimeRef} {name : String} {host : HostType}
    (live : h.runtimes.isLive rt = true) (found : h.hostNamed rt name = some host) :
    host.Closed h := by
  have member : (name, host) ∈ (h.runtime rt).hosts := by
    rw [hostNamed, List.lookup_eq_some_iff] at found
    obtain ⟨before, after, split, _⟩ := found
    rw [split]
    exact List.mem_append_right _ List.mem_cons_self
  exact (closed.runtime live).hosts _ member

end Closed

theorem Closed.spineValue_live {h : Heap} (closed : h.Closed) {superclass : Option DescriptorRef}
    (live : ∀ e, superclass = some e → h.descriptors.isLive e = true) :
    h.hasValue (h.spineValue superclass) = true := by
  cases superclass with
  | none => rfl
  | some e => exact (closed.descriptor (live e rfl)).object

theorem Extends.spineValue {h h' : Heap} (extended : h.Extends h')
    {superclass : Option DescriptorRef}
    (live : ∀ e, superclass = some e → h.descriptors.isLive e = true) :
    h'.spineValue superclass = h.spineValue superclass := by
  cases superclass with
  | none => rfl
  | some e => exact congrArg (Value.object ·.object) (extended.descriptor (live e rfl))

theorem Extends.rootPrototype {h h' : Heap} (extended : h.Extends h') (closed : h.Closed)
    {rt : RuntimeRef} (live : h.runtimes.isLive rt = true) :
    h'.rootPrototype rt = h.rootPrototype rt := by
  unfold Heap.rootPrototype
  rw [(extended.runtime live).root, (extended.klass (closed.root_live live)).prototype]

/- In a closed heap no link ends a chain, and induction along the links is possible. -/

theorem chain_of_none {h : Heap} {o : ObjectRef} (link : (h.object o).prototype = none) :
    h.chain o = [o] := by
  rw [chain, link]

theorem get_of_getOwn {h : Heap} {o : ObjectRef} {name : String} {v : Value}
    (own : h.getOwn o name = some v) : h.get o name = some v := by
  rw [get, chain, List.findSome?_cons, own]

theorem owningClass_of_bound {h : Heap} {o : ObjectRef} {c : ClassRef}
    (bound : (h.object o).boundClass = some c) : h.owningClass o = some c := by
  rw [owningClass, chain, List.findSome?_cons, bound]

theorem isLive_of_owningClass {h : Heap} {o : ObjectRef} {c : ClassRef}
    (owned : h.owningClass o = some c) : h.objects.isLive o = true := by
  by_cases live : h.objects.isLive o = true
  · exact live
  · have empty : h.object o = {} := Arena.get_of_not_isLive live
    rw [owningClass, chain_of_none (by rw [empty]), List.findSome?_singleton, empty] at owned
    cases owned

theorem ancestry_of_none {h : Heap} {c : ClassRef} (link : (h.klass c).superclass = none) :
    h.ancestry c = [c] := by
  rw [ancestry, link]

theorem spine_of_none {h : Heap} {d : DescriptorRef} (link : (h.descriptor d).superclass = none) :
    h.spine d = [d] := by
  rw [spine, link]

namespace Closed

variable {h : Heap} (closed : h.Closed)
include closed

theorem chain_of_some {o p : ObjectRef} (link : (h.object o).prototype = some p) :
    h.chain o = o :: h.chain p := by
  rw [chain, link]
  simp [(closed.prototype_older link).1]

/-- An object that no class is bound to belongs to the class of its prototype. -/
theorem owningClass_of_some {o p : ObjectRef} (unbound : (h.object o).boundClass = none)
    (link : (h.object o).prototype = some p) : h.owningClass o = h.owningClass p := by
  rw [owningClass, closed.chain_of_some link, List.findSome?_cons, unbound, owningClass]

theorem ancestry_of_some {c s : ClassRef} (link : (h.klass c).superclass = some s) :
    h.ancestry c = c :: h.ancestry s := by
  rw [ancestry, link]
  simp [(closed.superclass_older link).1]

theorem spine_of_some {d e : DescriptorRef} (link : (h.descriptor d).superclass = some e) :
    h.spine d = d :: h.spine e := by
  rw [spine, link]
  simp [(closed.spine_older link).1]

theorem ancestry_singleton {c : ClassRef} (alone : h.ancestry c = [c]) :
    (h.klass c).superclass = none := by
  cases link : (h.klass c).superclass with
  | none => rfl
  | some s =>
    rw [closed.ancestry_of_some link, ancestry] at alone
    cases alone

theorem ancestry_cons {c s : ClassRef} {rest : List ClassRef}
    (above : h.ancestry c = c :: s :: rest) :
    (h.klass c).superclass = some s ∧ h.ancestry s = s :: rest := by
  cases link : (h.klass c).superclass with
  | none =>
    rw [ancestry_of_none link] at above
    cases above
  | some p =>
    rw [closed.ancestry_of_some link] at above
    have ancestry_p : h.ancestry p = s :: rest := (List.cons.inj above).2
    have same : p = s := by
      rw [ancestry] at ancestry_p
      exact (List.cons.inj ancestry_p).1
    exact ⟨congrArg some same, same ▸ ancestry_p⟩

theorem superclass_induction {P : ClassRef → Prop}
    (step : ∀ c, (∀ s, (h.klass c).superclass = some s → P s) → P c) (c : ClassRef) : P c := by
  induction c using (measure Ref.id).wf.induction with
  | _ c ih => exact step c fun s link => ih s (closed.superclass_older link).1

theorem spine_induction {P : DescriptorRef → Prop}
    (step : ∀ d, (∀ e, (h.descriptor d).superclass = some e → P e) → P d) (d : DescriptorRef) :
    P d := by
  induction d using (measure Ref.id).wf.induction with
  | _ d ih => exact step d fun e link => ih e (closed.spine_older link).1

theorem ancestry_live {c : ClassRef} (live : h.classes.isLive c = true) :
    ∀ s ∈ h.ancestry c, h.classes.isLive s = true := by
  induction c using closed.superclass_induction with
  | step c ih =>
    cases link : (h.klass c).superclass with
    | none =>
      rw [ancestry_of_none link]
      exact List.forall_mem_singleton.2 live
    | some s =>
      rw [closed.ancestry_of_some link]
      exact List.forall_mem_cons.2 ⟨live, ih s link (closed.superclass_older link).2⟩

end Closed

end Heap

end ProtoClass
