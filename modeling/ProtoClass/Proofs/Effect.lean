import ProtoClass.Heap.Update

set_option autoImplicit false

/- One equation for each operation that calls no function: the heap that it leaves, in terms of the
arenas of the heap it found. Whoever needs to know what an operation does reads its equation and not
its definition. -/
namespace ProtoClass

namespace Heap

/-- Changes the properties of an object. -/
def mapProperties (h : Heap) (o : ObjectRef) (f : PropertyTable → PropertyTable) : Heap :=
  { h with objects := h.objects.modify o fun cell => { cell with properties := f cell.properties } }

theorem mapProperties_mapProperties (h : Heap) (o : ObjectRef) (f g : PropertyTable → PropertyTable) :
    (h.mapProperties o f).mapProperties o g = h.mapProperties o (g ∘ f) := by
  simp only [mapProperties, Arena.modify_modify]
  rfl

theorem mapProperties_id (h : Heap) (o : ObjectRef) : h.mapProperties o (fun t => t) = h := by
  simp only [mapProperties]
  rw [show (fun cell : ObjectCell => { cell with properties := cell.properties }) = fun cell => cell
    from rfl, Arena.modify_id]

/-- Changing the properties of an object changes nothing else of any object. -/
theorem object_mapProperties {β : Type} (h : Heap) (p : ObjectRef)
    (f : PropertyTable → PropertyTable) (o : ObjectRef) (part : ObjectCell → β)
    (same : ∀ cell t, part { cell with properties := t } = part cell) :
    part ((h.mapProperties p f).object o) = part (h.object o) :=
  Arena.get_modify_same h.objects p o _ part fun cell => same cell _

section Live

variable {h : Heap} {o : ObjectRef} (live : h.objects.isLive o = true)
include live

theorem properties_mapProperties (f : PropertyTable → PropertyTable) :
    ((h.mapProperties o f).object o).properties = f (h.object o).properties := by
  rw [object, mapProperties, Arena.get_modify live, if_pos rfl]
  rfl

theorem ownProperty_mapProperties (f : PropertyTable → PropertyTable) (name : String) :
    (h.mapProperties o f).ownProperty o name = (f (h.object o).properties).get? name := by
  rw [ownProperty, properties_mapProperties live]

end Live

end Heap

/- The identity of a class is kept by the object of its statics, so there are slots of two kinds only. -/

/-- Where an identity is kept. -/
inductive Slot where
  | object (o : ObjectRef)
  | function (f : FunctionRef)
  deriving DecidableEq

namespace Heap

/-- The slot that keeps the identity of a thing. -/
def slot (h : Heap) : Identified → Slot
  | .object o => .object o
  | .function f => .function f
  | .klass c => .object (h.klass c).statics

/-- What a slot holds. -/
def kept (h : Heap) : Slot → Option Identity
  | .object o => (h.object o).identity
  | .function f => (h.function f).identity

/-- Fills a slot. -/
def keep (h : Heap) (x : Slot) (id : Identity) : Heap :=
  match x with
  | .object o =>
    { h with objects := h.objects.modify o fun cell => { cell with identity := some id } }
  | .function f =>
    { h with functions := h.functions.modify f fun cell => { cell with identity := some id } }

/-- Counts one more identity issued. -/
def advance (h : Heap) (k : CounterRef) : Heap :=
  { h with counters := h.counters.modify k (· + 1) }

/-- Filling a slot changes nothing else of an object. -/
theorem object_keep {β : Type} (h : Heap) (x : Slot) (id : Identity) (o : ObjectRef)
    (part : ObjectCell → β) (same : ∀ cell i, part { cell with identity := i } = part cell) :
    part ((h.keep x id).object o) = part (h.object o) := by
  cases x with
  | object p => exact Arena.get_modify_same h.objects p o _ part fun cell => same cell _
  | function f => rfl

theorem identity?_eq_kept (h : Heap) (x : Identified) : h.identity? x = h.kept (h.slot x) := by
  cases x <;> rfl

end Heap

namespace Update

variable {α β : Type}

theorem bind_apply (x : Update α) (f : α → Update β) (h : Heap) :
    (x >>= f) h = f (x h).1 (x h).2 := rfl

theorem pure_apply (a : α) (h : Heap) : (pure a : Update α) h = (a, h) := rfl

theorem get_apply (h : Heap) : (get : Update Heap) h = (h, h) := rfl

theorem changeProperties_heap (o : ObjectRef) (f : PropertyTable → Bool × PropertyTable) (h : Heap) :
    (changeProperties o f h).2 = h.mapProperties o fun t => (f t).2 := by
  have objects : (h.objects.modify o fun cell =>
      { cell with properties := (f (h.object o).properties).2 }) =
      h.objects.modify o fun cell => { cell with properties := (f cell.properties).2 } := by
    apply Arena.modify_congr
    intro cell stored
    rw [Heap.object, Arena.get_of_get? stored]
  simp only [changeProperties, Heap.mapProperties, objects]

theorem setAll_heap (o : ObjectRef) (entries : List (String × Value)) (h : Heap) :
    (setAll o entries h).2 = h.mapProperties o fun t => t.setAll entries := by
  induction entries generalizing h with
  | nil => exact (h.mapProperties_id o).symm
  | cons entry rest ih =>
    rw [setAll, bind_apply, ih, set, changeProperties_heap, Heap.mapProperties_mapProperties]
    rfl

theorem newObjectOf_apply (prototype : Option ObjectRef) (entries : List (String × Value))
    (h : Heap) :
    newObjectOf prototype entries h =
      (h.objects.fresh,
        { h with objects := h.objects.add { prototype, properties := .ofEntries entries } }) := by
  simp only [newObjectOf, bind_apply, pure_apply, setAll_heap, newObject, Heap.mapProperties,
    Arena.modify_add_fresh]
  rfl

theorem register_apply (r : RegistryRef) (c : ClassRef) (h : Heap) :
    register r c h =
      ((h.registry r).get? (h.klass c).name,
        { h with registries := h.registries.modify r fun x => (x.register (h.klass c).name c).2 }) := by
  have registries : (h.registries.modify r fun _ => ((h.registry r).register (h.klass c).name c).2) =
      h.registries.modify r fun x => (x.register (h.klass c).name c).2 := by
    apply Arena.modify_congr
    intro x stored
    rw [Heap.registry, Arena.get_of_get? stored]
  simp only [register, registries]
  rfl

theorem buildClass_apply (rt : RuntimeRef) (d : Definition) (superclass : ClassRef) (h : Heap) :
    buildClass rt d superclass h =
      (h.classes.fresh,
        { h with
          objects :=
            ((h.objects.add
              { properties := .ofEntries d.members, prototype := some (h.klass superclass).prototype,
                boundClass := some h.classes.fresh }).add
              { properties := ((PropertyTable.ofEntries d.statics).define "toString"
                  (.function h.functions.fresh) ⟨true, false, true⟩).2,
                prototype := some (h.rootPrototype rt) }).add
              { properties := .ofEntries (d.annotations.getD []),
                prototype := some (h.rootPrototype rt) }
          functions := h.functions.add
            { name := "toString", code := .builtin (.classToString d.name) }
          classes := h.classes.add
            { name := d.name, superclass := some superclass, prototype := h.objects.fresh,
              statics := ⟨h.objects.size + 1⟩, annotations := ⟨h.objects.size + 2⟩ }
          registries := h.registries.modify (h.runtime rt).registry fun r =>
            (r.register d.name h.classes.fresh).2 }) := by
  simp only [buildClass, bind_apply, pure_apply, get_apply, newObjectOf_apply, newFunction, define,
    changeProperties_heap, newClass, bindClass, modifyObject, register_apply, Heap.mapProperties]
  have bound : ∀ (x y z : ObjectCell) (f : ObjectCell → ObjectCell),
      (((h.objects.add x).add y).add z).modify h.objects.fresh f =
        ((h.objects.add (f x)).add y).add z := by
    intro x y z f
    rw [Arena.modify_add_of_isLive (by simp), Arena.modify_add_of_isLive (by simp),
      Arena.modify_add_fresh]
  simp only [Arena.modify_add_fresh, bound, Heap.klass, Arena.get_add_fresh]
  simp only [Arena.fresh_add, Arena.size_add, Option.getD_none]

/- The new cells of a class that was built. -/

section Built

variable (rt : RuntimeRef) (d : Definition) (superclass : ClassRef) (h : Heap)

theorem buildClass_fst : (buildClass rt d superclass h).1 = h.classes.fresh := by
  rw [buildClass_apply]

theorem buildClass_class :
    (buildClass rt d superclass h).2.klass h.classes.fresh =
      { name := d.name, superclass := some superclass, prototype := h.objects.fresh,
        statics := ⟨h.objects.size + 1⟩, annotations := ⟨h.objects.size + 2⟩ } := by
  rw [buildClass_apply, Heap.klass, Arena.get_add_fresh]

theorem buildClass_prototype :
    (buildClass rt d superclass h).2.object h.objects.fresh =
      { properties := .ofEntries d.members, prototype := some (h.klass superclass).prototype,
        boundClass := some h.classes.fresh } := by
  rw [buildClass_apply, Heap.object, Arena.get_add, Arena.get_add, Arena.get_add_fresh]
  simp [Arena.fresh]
  omega

theorem buildClass_statics :
    (buildClass rt d superclass h).2.object ⟨h.objects.size + 1⟩ =
      { properties := ((PropertyTable.ofEntries d.statics).define "toString"
          (.function h.functions.fresh) ⟨true, false, true⟩).2,
        prototype := some (h.rootPrototype rt) } := by
  rw [buildClass_apply, Heap.object, Arena.get_add, Arena.get_add]
  simp [Arena.fresh]

theorem buildClass_annotations :
    (buildClass rt d superclass h).2.object ⟨h.objects.size + 2⟩ =
      { properties := .ofEntries (d.annotations.getD []), prototype := some (h.rootPrototype rt) } := by
  rw [buildClass_apply, Heap.object, Arena.get_add]
  simp [Arena.fresh]

theorem buildClass_function :
    (buildClass rt d superclass h).2.function h.functions.fresh =
      { name := "toString", code := .builtin (.classToString d.name) } := by
  rw [buildClass_apply, Heap.function, Arena.get_add_fresh]

/-- Only the prototype of the new class is newly bound, to that class. -/
theorem buildClass_bound {o : ObjectRef} {c : ClassRef}
    (bound : ((buildClass rt d superclass h).2.object o).boundClass = some c) :
    (h.object o).boundClass = some c ∨ o = h.objects.fresh ∧ c = h.classes.fresh := by
  rw [buildClass_apply, Heap.object, Arena.get_add, Arena.get_add, Arena.get_add] at bound
  split at bound
  · cases bound
  · split at bound
    · cases bound
    · split at bound
      · next new =>
        cases bound
        exact Or.inr ⟨new, rfl⟩
      · exact Or.inl bound

variable {rt d superclass h} in
theorem isLive_buildClass {c : ClassRef}
    (live : (buildClass rt d superclass h).2.classes.isLive c = true) :
    h.classes.isLive c = true ∨ c = h.classes.fresh := by
  rwa [buildClass_apply, Arena.isLive_add, Bool.or_eq_true, decide_eq_true_iff] at live

end Built

theorem openRuntime_apply (options : Options) (h : Heap) :
    openRuntime options h =
      (h.runtimes.fresh,
        { h with
          objects :=
            ((h.objects.add { boundClass := some h.classes.fresh }).add
              { prototype := some h.objects.fresh }).add { prototype := some h.objects.fresh }
          classes := h.classes.add
            { name := options.rootName, superclass := none, prototype := h.objects.fresh,
              statics := ⟨h.objects.size + 1⟩, annotations := ⟨h.objects.size + 2⟩ }
          counters := h.counters.add 0
          registries := h.registries.add (({} : Registry).register options.rootName h.classes.fresh).2
          runtimes := h.runtimes.add
            { options, counter := h.counters.fresh, registry := h.registries.fresh,
              hosts := [(options.rootName,
                { name := options.rootName, constructor := ⟨h.objects.size + 1⟩,
                  prototype := h.objects.fresh, create := none })],
              root := h.classes.fresh } }) := by
  have bound : ∀ (x y z : ObjectCell) (f : ObjectCell → ObjectCell),
      (((h.objects.add x).add y).add z).modify h.objects.fresh f =
        ((h.objects.add (f x)).add y).add z := by
    intro x y z f
    rw [Arena.modify_add_of_isLive (by simp), Arena.modify_add_of_isLive (by simp),
      Arena.modify_add_fresh]
  simp only [openRuntime, buildRoot, bind_apply, pure_apply, get_apply, newObject, newClass,
    bindClass, modifyObject, newCounter, newRegistry, newRuntimeCell, register_apply,
    Arena.modify_add_fresh, bound, Heap.klass, Arena.get_add_fresh, Arena.fresh_add,
    Arena.size_add, Option.getD_none]

theorem openRuntime_fst (options : Options) (h : Heap) :
    (openRuntime options h).1 = h.runtimes.fresh := by
  rw [openRuntime_apply]

/- The new cells of a runtime that was opened. -/

section Opened

variable (options : Options) (h : Heap)

theorem openRuntime_runtime :
    (openRuntime options h).2.runtime h.runtimes.fresh =
      { options, counter := h.counters.fresh, registry := h.registries.fresh,
        hosts := [(options.rootName,
          { name := options.rootName, constructor := ⟨h.objects.size + 1⟩,
            prototype := h.objects.fresh, create := none })],
        root := h.classes.fresh } := by
  rw [openRuntime_apply, Heap.runtime, Arena.get_add_fresh]

theorem openRuntime_class :
    (openRuntime options h).2.klass h.classes.fresh =
      { name := options.rootName, superclass := none, prototype := h.objects.fresh,
        statics := ⟨h.objects.size + 1⟩, annotations := ⟨h.objects.size + 2⟩ } := by
  rw [openRuntime_apply, Heap.klass, Arena.get_add_fresh]

theorem openRuntime_prototype :
    (openRuntime options h).2.object h.objects.fresh = { boundClass := some h.classes.fresh } := by
  rw [openRuntime_apply, Heap.object, Arena.get_add, Arena.get_add, Arena.get_add_fresh]
  simp [Arena.fresh]
  omega

theorem openRuntime_statics :
    (openRuntime options h).2.object ⟨h.objects.size + 1⟩ =
      { prototype := some h.objects.fresh } := by
  rw [openRuntime_apply, Heap.object, Arena.get_add, Arena.get_add]
  simp [Arena.fresh]

/-- Only the prototype of the root class is newly bound, to that class. -/
theorem openRuntime_bound {o : ObjectRef} {c : ClassRef}
    (bound : ((openRuntime options h).2.object o).boundClass = some c) :
    (h.object o).boundClass = some c ∨ o = h.objects.fresh ∧ c = h.classes.fresh := by
  rw [openRuntime_apply, Heap.object, Arena.get_add, Arena.get_add, Arena.get_add] at bound
  split at bound
  · cases bound
  · split at bound
    · cases bound
    · split at bound
      · next new =>
        cases bound
        exact Or.inr ⟨new, rfl⟩
      · exact Or.inl bound

theorem isLive_openRuntime_fresh :
    (openRuntime options h).2.runtimes.isLive h.runtimes.fresh = true := by
  rw [openRuntime_apply]
  simp

variable {options h} in
theorem isLive_openRuntime {c : ClassRef}
    (live : (openRuntime options h).2.classes.isLive c = true) :
    h.classes.isLive c = true ∨ c = h.classes.fresh := by
  rwa [openRuntime_apply, Arena.isLive_add, Bool.or_eq_true, decide_eq_true_iff] at live

variable {options h} in
theorem isLive_runtime_openRuntime {rt : RuntimeRef}
    (live : (openRuntime options h).2.runtimes.isLive rt = true) :
    h.runtimes.isLive rt = true ∨ rt = h.runtimes.fresh := by
  rwa [openRuntime_apply, Arena.isLive_add, Bool.or_eq_true, decide_eq_true_iff] at live

end Opened

theorem newRuntime_apply (options : Options) (h : Heap) :
    newRuntime options h =
      match options.validate with
      | .error e => (.error e, h)
      | .ok _ => (.ok (buildRuntime options h).1, (buildRuntime options h).2) := by
  unfold newRuntime
  cases options.validate with
  | error e => rfl
  | ok _ => simp only [bind_apply, pure_apply]

theorem registerHost_apply (rt : RuntimeRef) (name : String) (create : Option FunctionRef)
    (h : Heap) :
    registerHost rt name create h =
      match h.hostNamed rt name with
      | some host => (host, h)
      | none =>
        let host : HostType :=
          { name, constructor := h.objects.fresh, prototype := ⟨h.objects.size + 1⟩, create }
        (host,
          { h with
            objects := (h.objects.add { prototype := some (h.rootPrototype rt) }).add
              { prototype := some (h.rootPrototype rt) }
            runtimes := h.runtimes.modify rt fun cell =>
              { cell with hosts := cell.hosts ++ [(name, host)] } }) := by
  unfold registerHost
  rw [bind_apply, get_apply]
  cases found : h.hostNamed rt name with
  | some host => simp only [pure_apply]
  | none => simp only [bind_apply, newObject, modifyRuntime, Arena.fresh_add, pure_apply]

/-- Installing one property does nothing, or defines it. -/
theorem installOne_cases (target : ObjectRef) (name : String) (value : Value) (h : Heap) :
    installOne target name value h = (false, h) ∨
      installOne target name value h = define target name value .hidden h := by
  unfold installOne
  rw [bind_apply, get_apply]
  cases h.get target name with
  | none => exact Or.inr rfl
  | some existing =>
    dsimp only
    split
    · exact Or.inl rfl
    · exact Or.inr rfl

theorem installOne_heap (target : ObjectRef) (name : String) (value : Value) (h : Heap) :
    ∃ f : PropertyTable → PropertyTable, (installOne target name value h).2 = h.mapProperties target f ∧
      ∀ t, ∀ p ∈ (f t).toList, p ∈ t.toList ∨ p.value = value := by
  rcases installOne_cases target name value h with same | defined
  · rw [same]
    exact ⟨fun t => t, (h.mapProperties_id target).symm, fun t p member => Or.inl member⟩
  · rw [defined, define, changeProperties_heap]
    exact ⟨_, rfl, fun t p member => PropertyTable.value_of_mem_define member⟩

theorem isLive_installOne (target : ObjectRef) (name : String) (value : Value) (h : Heap)
    (o : ObjectRef) : (installOne target name value h).2.objects.isLive o = h.objects.isLive o := by
  obtain ⟨f, changed, _⟩ := installOne_heap target name value h
  rw [changed, Heap.mapProperties, Arena.isLive_modify]

theorem install_cons_heap (target : ObjectRef) (entry : String × Value)
    (rest : List (String × Value)) (h : Heap) :
    (install target (entry :: rest) h).2 =
      (install target rest (installOne target entry.1 entry.2 h).2).2 := rfl

theorem draw_apply (k : CounterRef) (h : Heap) :
    draw k h =
      if h.issued k = Int32.maxValue then (.error .identitiesExhausted, h)
      else (.ok (h.issued k), h.advance k) := by
  unfold draw
  rw [bind_apply, get_apply]
  by_cases exhausted : h.issued k = Int32.maxValue
  · rw [if_pos exhausted, if_pos exhausted]
    rfl
  · rw [if_neg exhausted, if_neg exhausted]
    rfl

theorem identityOf_apply (k : CounterRef) (x : Identified) (h : Heap) :
    identityOf k x h =
      match h.kept (h.slot x) with
      | some id => (.ok id.number, h)
      | none =>
        if h.issued k = Int32.maxValue then (.error .identitiesExhausted, h)
        else (.ok (h.issued k), (h.advance k).keep (h.slot x) ⟨k, h.issued k⟩) := by
  unfold identityOf
  rw [bind_apply, get_apply, Heap.identity?_eq_kept]
  cases h.kept (h.slot x) with
  | some id => rfl
  | none =>
    dsimp only
    rw [bind_apply, draw_apply]
    by_cases exhausted : h.issued k = Int32.maxValue
    · rw [if_pos exhausted, if_pos exhausted]
      rfl
    · rw [if_neg exhausted, if_neg exhausted]
      cases x <;> rfl

theorem hashOf_apply (s : StringRef) (h : Heap) :
    hashOf s h =
      match (h.string s).hash with
      | some n => (n, h)
      | none =>
        (contentHash (h.string s).units,
          { h with strings := h.strings.modify s fun cell =>
              { cell with hash := some (contentHash (h.string s).units) } }) := by
  unfold hashOf
  rw [bind_apply, get_apply]
  cases (h.string s).hash <;> rfl

theorem recordDescriptor_apply (c : ClassRef) (cell : DescriptorCell) (h : Heap) :
    recordDescriptor c cell h =
      (h.descriptors.fresh,
        { h with
          descriptors := h.descriptors.add cell
          classes := h.classes.modify c fun klass =>
            { klass with descriptor := some h.descriptors.fresh } }) := rfl

theorem recordDescriptor_descriptor {c : ClassRef} {h : Heap} (live : h.classes.isLive c = true)
    (cell : DescriptorCell) :
    ((recordDescriptor c cell h).2.klass c).descriptor = some (recordDescriptor c cell h).1 := by
  rw [recordDescriptor_apply, Heap.klass, Arena.get_modify live, if_pos rfl]

/-- Installing changes the properties of the target only. -/
theorem install_heap (target : ObjectRef) (properties : List (String × Value)) (h : Heap) :
    ∃ f : PropertyTable → PropertyTable, (install target properties h).2 = h.mapProperties target f ∧
      ∀ t, ∀ p ∈ (f t).toList, p ∈ t.toList ∨ ∃ entry ∈ properties, p.value = entry.2 := by
  induction properties generalizing h with
  | nil => exact ⟨fun t => t, (h.mapProperties_id target).symm, fun t p member => Or.inl member⟩
  | cons entry rest ih =>
    obtain ⟨f, first, fromFirst⟩ := installOne_heap target entry.1 entry.2 h
    obtain ⟨g, others, fromOthers⟩ := ih (installOne target entry.1 entry.2 h).2
    refine ⟨g ∘ f, ?_, ?_⟩
    · rw [install_cons_heap, others, first, Heap.mapProperties_mapProperties]
    · intro t p member
      rcases fromOthers (f t) p member with old | ⟨later, among, eq⟩
      · rcases fromFirst t p old with older | eq
        · exact Or.inl older
        · exact Or.inr ⟨entry, List.mem_cons_self, eq⟩
      · exact Or.inr ⟨later, List.mem_cons_of_mem _ among, eq⟩

end Update

end ProtoClass
