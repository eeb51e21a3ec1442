import ProtoClass.Proofs.Closed

set_option autoImplicit false

namespace ProtoClass

namespace Heap

theorem hasEntries_iff {h : Heap} {entries : List (String × Value)} :
    h.hasEntries entries = true ↔ ∀ entry ∈ entries, h.hasValue entry.2 = true :=
  List.all_eq_true

theorem Extends.hasEntries {h h' : Heap} (extended : h.Extends h') {entries : List (String × Value)}
    (live : h.hasEntries entries = true) : h'.hasEntries entries = true := by
  rw [hasEntries_iff] at live ⊢
  exact fun entry member => extended.hasValue (live entry member)

/-- An object without properties is closed when its links are. -/
theorem closed_bare {h : Heap} {o : ObjectRef} {prototype : Option ObjectRef}
    {boundClass : Option ClassRef} (older : ∀ p, prototype = some p → p.id < o.id)
    (bound : ∀ c, boundClass = some c → h.classes.isLive c = true) :
    ObjectCell.Closed h o { prototype, boundClass } where
  properties p member := by
    rw [PropertyTable.toList_empty] at member
    cases member
  prototype := older
  boundClass := bound

/-- The entries of a new object are its properties. -/
theorem hasValue_ofEntries {h : Heap} {entries : List (String × Value)}
    (live : h.hasEntries entries = true) :
    ∀ p ∈ (PropertyTable.ofEntries entries).toList, h.hasValue p.value = true := by
  intro p member
  rcases PropertyTable.value_of_mem_setAll member with old | ⟨entry, among, eq⟩
  · rw [PropertyTable.toList_empty] at old
    cases old
  · exact eq ▸ hasEntries_iff.1 live entry among

theorem hasDefinition_iff {h : Heap} {d : Definition} :
    h.hasDefinition d = true ↔
      h.hasEntries d.members = true ∧ h.hasEntries d.statics = true ∧
        (∀ f, d.initializer = some f → h.functions.isLive f = true) ∧
        h.hasEntries (d.annotations.getD []) = true := by
  simp only [hasDefinition, Bool.and_eq_true, and_assoc, Option.all_eq_true]

namespace Closed

variable {h : Heap} (closed : h.Closed)
include closed

theorem newObjectOf {prototype : Option ObjectRef} {entries : List (String × Value)}
    (older : ∀ p, prototype = some p → h.objects.isLive p = true)
    (live : h.hasEntries entries = true) : (Update.newObjectOf prototype entries h).2.Closed := by
  rw [Update.newObjectOf_apply]
  have extended : h.Extends
      { h with objects := h.objects.add { prototype, properties := .ofEntries entries } } :=
    { Extends.refl h with objects := (Extends.refl h).objects.add _ }
  have later := closed.later extended
  refine { later with objects := later.objects.add ⟨?_, ?_, nofun⟩ }
  · exact hasValue_ofEntries (extended.hasEntries live)
  · intro p link
    exact (Arena.isLive_iff _ _).1 (older p link)

theorem mapProperties {o : ObjectRef} {f : PropertyTable → PropertyTable}
    (values : ∀ t, ∀ p ∈ (f t).toList, p ∈ t.toList ∨ h.hasValue p.value = true) :
    (h.mapProperties o f).Closed := by
  have extended := h.extends_mapProperties o f
  have later := closed.later extended
  refine { later with objects := later.objects.modify fun cell _ before => ?_ }
  refine { before with properties := fun p member => ?_ }
  rcases values cell.properties p member with old | live
  · exact before.properties p old
  · exact extended.hasValue live

theorem set {o : ObjectRef} {name : String} {value : Value} (live : h.hasValue value = true) :
    (Update.set o name value h).2.Closed := by
  rw [Update.set, Update.changeProperties_heap]
  refine closed.mapProperties fun t p member => ?_
  exact (PropertyTable.value_of_mem_set member).imp_right fun eq => by rw [eq, live]

theorem define {o : ObjectRef} {name : String} {value : Value} {flags : Flags}
    (live : h.hasValue value = true) : (Update.define o name value flags h).2.Closed := by
  rw [Update.define, Update.changeProperties_heap]
  refine closed.mapProperties fun t p member => ?_
  exact (PropertyTable.value_of_mem_define member).imp_right fun eq => by rw [eq, live]

theorem delete (o : ObjectRef) (name : String) : (Update.delete o name h).2.Closed := by
  rw [Update.delete, Update.changeProperties_heap]
  exact closed.mapProperties fun t p member => Or.inl (PropertyTable.mem_of_mem_delete member)

theorem install {o : ObjectRef} {properties : List (String × Value)}
    (live : h.hasEntries properties = true) : (Update.install o properties h).2.Closed := by
  obtain ⟨f, changed, values⟩ := Update.install_heap o properties h
  rw [changed]
  refine closed.mapProperties fun t p member => ?_
  refine (values t p member).imp_right ?_
  rintro ⟨entry, among, eq⟩
  exact eq ▸ hasEntries_iff.1 live entry among

theorem identityOf (k : CounterRef) (x : Identified) : (Update.identityOf k x h).2.Closed := by
  have later := closed.later (h.extends_identityOf k x)
  revert later
  rw [Update.identityOf_apply]
  cases h.kept (h.slot x) with
  | some id => exact fun _ => closed
  | none =>
    dsimp only
    split
    · exact fun _ => closed
    · intro later
      cases slot : h.slot x with
      | object o =>
        rw [slot] at later
        exact { later with
          objects := later.objects.modify fun _ _ before => ⟨before.1, before.2, before.3⟩ }
      | function f =>
        rw [slot] at later
        exact { later with }

theorem hashOf (s : StringRef) : (Update.hashOf s h).2.Closed := by
  have later := closed.later (h.extends_hashOf s)
  revert later
  rw [Update.hashOf_apply]
  cases (h.string s).hash with
  | some n => exact fun _ => closed
  | none => exact fun later => { later with }

theorem register {r : RegistryRef} {c : ClassRef} (live : h.classes.isLive c = true) :
    (Update.register r c h).2.Closed := by
  have later := closed.later (h.extends_register r c)
  revert later
  rw [Update.register_apply]
  intro later
  refine { later with registries := later.registries.modify fun x _ before => ?_ }
  intro name d registered
  rw [Registry.get?_register] at registered
  split at registered
  · cases registered
    exact live
  · exact before name d registered

theorem registerHost {rt : RuntimeRef} {name : String} {create : Option FunctionRef}
    (runtime : h.runtimes.isLive rt = true)
    (made : ∀ f, create = some f → h.functions.isLive f = true) :
    (Update.registerHost rt name create h).2.Closed := by
  have later := closed.later (h.extends_registerHost rt name create)
  have root := closed.rootPrototype_live runtime
  rw [Arena.isLive_iff] at root
  revert later
  rw [Update.registerHost_apply]
  cases h.hostNamed rt name with
  | some host => exact fun _ => closed
  | none =>
    intro later
    refine { later with
      objects := (later.objects.add (closed_bare ?_ ?_)).add (closed_bare ?_ ?_)
      runtimes := later.runtimes.modify fun cell _ before => { before with hosts := ?_ } }
    · rintro p ⟨⟩
      exact root
    · nofun
    · rintro p ⟨⟩
      rw [Arena.fresh_add]
      exact Nat.lt_succ_of_lt root
    · nofun
    · intro entry member
      rcases List.mem_append.1 member with old | new
      · exact before.hosts entry old
      · rw [List.mem_singleton.1 new]
        refine ⟨?_, ?_, made⟩
        · simp
        · simp [Arena.fresh_add]

theorem buildClass {rt : RuntimeRef} {d : Definition} {s : ClassRef}
    (runtime : h.runtimes.isLive rt = true) (there : h.hasDefinition d = true)
    (superclass : h.classes.isLive s = true) : (Update.buildClass rt d s h).2.Closed := by
  have extended := h.extends_buildClass rt d s
  have later := closed.later extended
  obtain ⟨members, statics, _, annotations⟩ := hasDefinition_iff.1 there
  have root := closed.rootPrototype_live runtime
  have parent := (closed.klass superclass).prototype
  rw [Arena.isLive_iff] at root parent superclass
  revert later extended
  rw [Update.buildClass_apply]
  intro extended later
  refine { later with
    objects := ((later.objects.add ⟨?_, ?_, ?_⟩).add ⟨?_, ?_, ?_⟩).add ⟨?_, ?_, ?_⟩
    classes := later.classes.add ⟨?_, ?_, ?_, ?_, ?_⟩
    registries := later.registries.modify fun x _ before => ?_ }
  · exact hasValue_ofEntries (extended.hasEntries members)
  · rintro p ⟨⟩
    exact parent
  · rintro c ⟨⟩
    simp
  · intro p member
    rcases PropertyTable.value_of_mem_define member with old | eq
    · exact hasValue_ofEntries (extended.hasEntries statics) p old
    · simp [eq, hasValue]
  · rintro p ⟨⟩
    rw [Arena.fresh_add]
    exact Nat.lt_succ_of_lt root
  · nofun
  · exact hasValue_ofEntries (extended.hasEntries annotations)
  · rintro p ⟨⟩
    rw [Arena.fresh_add, Arena.size_add]
    exact Nat.lt_succ_of_lt (Nat.lt_succ_of_lt root)
  · nofun
  · rintro c ⟨⟩
    exact superclass
  · simp
  · simp [Arena.fresh_add]
  · simp [Arena.fresh_add]
  · nofun
  · intro name c registered
    rw [Registry.get?_register] at registered
    split at registered
    · cases registered
      simp
    · exact before name c registered

theorem recordDescriptor {watch : Watch} {c : ClassRef} {cell : DescriptorCell}
    (describes : Describes watch h c cell) : (Update.recordDescriptor c cell h).2.Closed := by
  have later := closed.later (h.extends_recordDescriptor c cell describes.undescribed)
  have klass := closed.klass describes.live
  revert later
  rw [Update.recordDescriptor_apply]
  intro later
  refine { later with
    descriptors := later.descriptors.add ⟨describes.object, ?_, ?_, ?_⟩
    classes := later.classes.modify fun x _ before => { before with descriptor := ?_ } }
  · rintro d ⟨⟩
    simp
  · rw [describes.prototype]
    exact klass.prototype
  · rw [describes.annotations]
    exact klass.annotations
  · intro e link
    have parent := describes.superclass
    rw [link] at parent
    obtain ⟨s, _, described⟩ := parent
    exact (Arena.isLive_iff _ _).1 (closed.descriptor_live described)

theorem openRuntime (options : Options) : (Update.openRuntime options h).2.Closed := by
  have later := closed.later (h.extends_openRuntime options)
  revert later
  rw [Update.openRuntime_apply]
  intro later
  refine { later with
    objects := ((later.objects.add (closed_bare ?_ ?_)).add (closed_bare ?_ ?_)).add
      (closed_bare ?_ ?_)
    classes := later.classes.add ⟨nofun, ?_, ?_, ?_, nofun⟩
    registries := later.registries.add ?_
    runtimes := later.runtimes.add ⟨?_, ?_, ?_, ?_, nofun⟩ }
  · nofun
  · rintro c ⟨⟩
    simp
  · rintro p ⟨⟩
    rw [Arena.fresh_add]
    exact Nat.lt_succ_self h.objects.size
  · nofun
  · rintro p ⟨⟩
    rw [Arena.fresh_add, Arena.size_add]
    exact Nat.lt_succ_of_lt (Nat.lt_succ_self h.objects.size)
  · nofun
  · simp
  · simp [Arena.fresh_add]
  · simp [Arena.fresh_add]
  · intro name c registered
    rw [Registry.get?_register] at registered
    split at registered
    · cases registered
      simp
    · rw [Registry.get?_empty] at registered
      cases registered
  · simp
  · simp
  · simp
  · intro entry member
    rw [List.mem_singleton.1 member]
    refine ⟨?_, ?_, nofun⟩
    · simp [Arena.fresh_add]
    · simp

theorem setMetadataClass {rt : RuntimeRef} {m : ClassRef} (closes : Closes h rt m) :
    (Update.setMetadataClass rt m h).2.Closed := by
  have later := closed.later (h.extends_setMetadataClass rt m closes.unset)
  refine { later with runtimes := later.runtimes.modify fun cell _ before =>
    { before with metadataClass := ?_ } }
  rintro c ⟨⟩
  exact closes.class_live

end Closed

end Heap

/-- Every event keeps a heap closed. -/
theorem Event.closed {watch : Watch} {h : Heap} {e : Event} (closed : h.Closed)
    (allowed : e.Allowed watch h) : (e.apply h).Closed := by
  have later := closed.later (Event.extends allowed)
  cases e with
  | object prototype entries => exact closed.newObjectOf allowed.1 allowed.2
  | function name code => exact { later with }
  | string units => exact { later with }
  | counter => exact { later with }
  | registry =>
    refine { later with registries := later.registries.add ?_ }
    intro name c registered
    rw [Registry.get?_empty] at registered
    cases registered
  | set o name value => exact closed.set allowed.2.1
  | define o name value flags => exact closed.define allowed.2.1
  | delete o name => exact closed.delete o name
  | install o properties => exact closed.install allowed.2.1
  | identity k x => exact closed.identityOf k x
  | hash s => exact closed.hashOf s
  | register r c => exact closed.register allowed.2.1
  | host rt name create => exact closed.registerHost allowed.1 allowed.2
  | klass rt d s =>
    exact closed.buildClass allowed.1 allowed.2.1 (closed.resolve_live allowed.1 allowed.2.2)
  | describe c cell => exact closed.recordDescriptor allowed
  | openRuntime options => exact closed.openRuntime options
  | furnish o properties => exact closed.install allowed.2.1
  | closeRuntime rt m => exact closed.setMetadataClass allowed

theorem Heap.Reached.closed {watch : Watch} {h : Heap} (reached : h.Reached watch) : h.Closed :=
  reached.invariant Heap.closed_empty fun _ _ => Event.closed

theorem Heap.Reached.trace {watch : Watch} {h h' : Heap} {es : List Event} (reached : h.Reached watch)
    (trace : Trace watch h es h') : h'.Reached watch := by
  obtain ⟨before, first⟩ := reached
  exact ⟨before ++ es, first.append trace⟩

end ProtoClass
