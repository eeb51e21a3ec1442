import ProtoClass.Proofs.Leads

set_option autoImplicit false

/- Building a runtime is a passage: the runtime is opened, the surfaces of all receivers and of strings
are installed on objects that are new, and the metadata class is built like any other class and
given to the runtime. -/
namespace ProtoClass

/-- What making functions for a surface gives: an entry for each member, in the same order. -/
structure Surfaced (h : Heap) (surface : List (String × Builtin)) (entries : List (String × Value)) :
    Prop where
  names : entries.map Prod.fst = surface.map Prod.fst
  live : h.hasEntries entries = true
  code : ∀ member ∈ surface, ∃ f, (member.1, Value.function f) ∈ entries ∧
    h.functions.isLive f = true ∧ (h.function f).code = .builtin member.2

theorem Surfaced.later {h h' : Heap} {surface : List (String × Builtin)}
    {entries : List (String × Value)} (surfaced : Surfaced h surface entries)
    (extended : h.Extends h') : Surfaced h' surface entries where
  names := surfaced.names
  live := extended.hasEntries surfaced.live
  code member among := by
    obtain ⟨f, entry, live, code⟩ := surfaced.code member among
    have kept := (extended.functions.get live).code
    exact ⟨f, entry, extended.functions.isLive live, kept.trans code⟩

/-- Making functions for a surface makes functions only. -/
theorem newBuiltins_passage (watch : Watch) (surface : List (String × Builtin)) (h : Heap) :
    Passage watch h (Update.newBuiltins surface h).2 ∧
      h.SameOutside [.function] (Update.newBuiltins surface h).2 ∧
      Surfaced (Update.newBuiltins surface h).2 surface (Update.newBuiltins surface h).1 := by
  induction surface generalizing h with
  | nil => exact ⟨.refl watch h, .refl _ h, rfl, rfl, nofun⟩
  | cons member rest ih =>
    obtain ⟨name, b⟩ := member
    let first : Event := .function name (.builtin b)
    obtain ⟨passage, outside, others⟩ := ih (first.apply h)
    have extended := passage.extended
    have live : (first.apply h).functions.isLive h.functions.fresh = true := by
      simp [first, Event.apply, Update.newFunction]
    have code : ((first.apply h).function h.functions.fresh).code = .builtin b := by
      simp [first, Event.apply, Update.newFunction, Heap.function]
    have made : Passage watch h (first.apply h) := .of_event trivial id
    refine ⟨made.trans passage, (first.frame h).trans outside, ?_, ?_, ?_⟩
    · exact congrArg (name :: ·) others.names
    · exact Heap.hasEntries_iff.2 (List.forall_mem_cons.2
        ⟨extended.functions.isLive live, Heap.hasEntries_iff.1 others.live⟩)
    · refine List.forall_mem_cons.2 ⟨?_, ?_⟩
      · exact ⟨_, List.mem_cons_self, extended.functions.isLive live,
          (extended.functions.get live).code.trans code⟩
      · intro later among
        obtain ⟨f, entry, made⟩ := others.code later among
        exact ⟨f, List.mem_cons_of_mem _ entry, made⟩

section Surfaced

variable {h : Heap} {surface : List (String × Builtin)} {entries : List (String × Value)}
  (surfaced : Surfaced h surface entries)
include surfaced

theorem Surfaced.lookup (distinct : (surface.map Prod.fst).Nodup) {member : String × Builtin}
    (among : member ∈ surface) : ∃ f, entries.lookup member.1 = some (.function f) ∧
      h.functions.isLive f = true ∧ (h.function f).code = .builtin member.2 := by
  obtain ⟨f, entry, made⟩ := surfaced.code member among
  rw [← surfaced.names] at distinct
  exact ⟨f, Named.lookup_of_mem distinct entry, made⟩

theorem Surfaced.lookup_eq_none {name : String} (other : name ∉ surface.map Prod.fst) :
    entries.lookup name = none := by
  rw [← surfaced.names] at other
  rw [List.lookup_eq_none_iff]
  intro entry among
  exact bne_iff_ne.2 fun same => other (same ▸ List.mem_map_of_mem among)

end Surfaced

theorem descriptorDefinition_eq {name : String} {members : List (String × Value)}
    (distinct : (members.map Prod.fst).Nodup) :
    Update.descriptorDefinition name members = { name, members } := by
  have added : ∀ (d : Definition) (more : List (String × Value)),
      ((d.members ++ more).map Prod.fst).Nodup →
        more.foldl (fun d entry => d.member entry.1 entry.2) d =
          { d with members := d.members ++ more } := by
    intro d more
    induction more generalizing d with
    | nil => simp
    | cons entry rest ih =>
      intro distinct
      have new : entry.1 ∉ d.members.map Prod.fst := by
        rw [List.map_append, List.nodup_append] at distinct
        exact fun old => distinct.2.2 _ old _ List.mem_cons_self rfl
      have first : d.member entry.1 entry.2 = { d with members := d.members ++ [entry] } := by
        rw [Definition.member, Named.put_of_not_mem _ new]
      rw [List.foldl_cons, first, ih]
      · simp
      · simpa using distinct
  exact added { name } members distinct

/-- The members of descriptor objects have distinct names, whatever the constructor prefix is: that
of the constructor ends with a digit and the others do not. -/
theorem descriptorSurface_nodup (constructorPrefix : String) :
    ((Update.descriptorSurface constructorPrefix).map Prod.fst).Nodup := by
  have last : ∀ name : String, name.toList.getLast? ≠ some '0' → constructorPrefix ++ "0" ≠ name := by
    rintro name other rfl
    exact other (by simp)
  refine List.nodup_cons.2 ⟨?_, by decide⟩
  intro among
  simp only [List.map_cons, List.map_nil, List.mem_cons, List.not_mem_nil, or_false] at among
  rcases among with same | same | same | same | same | same | same <;>
    exact last _ (by decide) same

/-- A prototype that is made with the members of descriptor objects has them. -/
theorem Surfaced.furnished {h : Heap} {o : ObjectRef} {constructorPrefix : String}
    {entries : List (String × Value)}
    (surfaced : Surfaced h (Update.descriptorSurface constructorPrefix) entries)
    (made : (h.object o).properties = .ofEntries entries) : h.Furnished o constructorPrefix := by
  have distinct : (entries.map Prod.fst).Nodup := by
    rw [surfaced.names]
    exact descriptorSurface_nodup constructorPrefix
  intro member among
  obtain ⟨f, entry, live, code⟩ := surfaced.code member among
  refine ⟨f, live, ?_, code⟩
  rw [Heap.getOwn, Heap.ownProperty, made, PropertyTable.get?_ofEntries_of_mem distinct entry]
  rfl

namespace Update

/-- Registers the host type of strings and installs its surface. -/
def hostStrings (rt : RuntimeRef) : Update HostType := do
  let strings ← registerHost rt "String" none
  let surface ← newBuiltins stringSurface
  let _ ← install strings.prototype surface
  return strings

/-- What a runtime gets between its opening and its metadata class: both surfaces, and functions for
the members of descriptor objects. -/
def furnishRuntime (options : Options) (rt : RuntimeRef) : Update (List (String × Value)) := do
  let surface ← newBuiltins objectSurface
  let _ ← install ((← get).rootPrototype rt) surface
  let _ ← hostStrings rt
  newBuiltins (descriptorSurface options.constructorPrefix)

/-- Building a runtime in three stages: its opening, what it gets then, and its metadata class. -/
theorem buildRuntime_eq (options : Options) :
    buildRuntime options = (do
      let rt ← openRuntime options
      let members ← furnishRuntime options rt
      let root := ((← get).runtime rt).root
      let metadata ← buildClass rt (descriptorDefinition options.metadataName members) root
      setMetadataClass rt metadata
      return rt) := by
  funext h
  simp only [buildRuntime, furnishRuntime, hostStrings, bind_apply, pure_apply, get_apply]

end Update

/-- A runtime that is being built since the first heap: it has no metadata class yet, and the
objects that surfaces are installed on are new. -/
structure Opened (watch : Watch) (h₀ : Heap) (options : Options) (rt : RuntimeRef) (h : Heap) :
    Prop where
  passage : Passage watch h₀ h
  same : h₀.SameDescribed h
  only : ∀ other, h.runtimes.isLive other = true → h₀.runtimes.isLive other = true ∨ other = rt
  live : h.runtimes.isLive rt = true
  options : (h.runtime rt).options = options
  unset : (h.runtime rt).metadataClass = none
  root : ¬ h₀.objects.isLive (h.rootPrototype rt) = true
  hosts : ∀ entry ∈ (h.runtime rt).hosts, ¬ h₀.objects.isLive entry.2.prototype = true

theorem openRuntime_opened (watch : Watch) (options : Options) (h : Heap) :
    Opened watch h options h.runtimes.fresh (Update.openRuntime options h).2 := by
  have passage : Passage watch h (Update.openRuntime options h).2 :=
    .single (e := .openRuntime options) trivial nofun
  refine ⟨passage, ?_, fun _ => Update.isLive_runtime_openRuntime, ?_, ?_, ?_, ?_, ?_⟩
  · exact Event.sameDescribed (e := .openRuntime options) id h
  · simp [Update.openRuntime_apply]
  · simp [Update.openRuntime_apply, Heap.runtime]
  · simp [Update.openRuntime_apply, Heap.runtime]
  · simp [Update.openRuntime_apply, Heap.rootPrototype, Heap.runtime, Heap.klass]
  · intro entry member
    simp only [Update.openRuntime_apply, Heap.runtime, Arena.get_add_fresh] at member
    rw [List.mem_singleton.1 member]
    simp

namespace Opened

variable {watch : Watch} {h₀ h h' : Heap} {options : Options} {rt : RuntimeRef}
  (opened : Opened watch h₀ options rt h)
include opened

theorem extended : h₀.Extends h := opened.passage.extended

theorem closed (closed : h₀.Closed) : h.Closed := opened.passage.closed closed

/-- A stage that leaves classes, descriptors and runtimes alone. -/
theorem next (passage : Passage watch h₀ h') (classes : h'.classes = h.classes)
    (descriptors : h'.descriptors = h.descriptors) (runtimes : h'.runtimes = h.runtimes) :
    Opened watch h₀ options rt h' := by
  have runtime : h'.runtime rt = h.runtime rt := congrArg (Arena.get · rt) runtimes
  have prototype : h'.rootPrototype rt = h.rootPrototype rt := by
    simp only [Heap.rootPrototype, Heap.klass, runtime, classes]
  refine ⟨passage, opened.same.trans ⟨descriptors, ?_⟩, ?_, ?_, ?_, ?_, ?_, ?_⟩
  · intro rt
    rw [Heap.runtime, runtimes, Heap.runtime]
  · rw [runtimes]
    exact opened.only
  · rw [runtimes]
    exact opened.live
  · rw [runtime]
    exact opened.options
  · rw [runtime]
    exact opened.unset
  · rw [prototype]
    exact opened.root
  · rw [runtime]
    exact opened.hosts

theorem newBuiltins (surface : List (String × Builtin)) :
    Opened watch h₀ options rt (Update.newBuiltins surface h).2 ∧
      h.Extends (Update.newBuiltins surface h).2 ∧
      Surfaced (Update.newBuiltins surface h).2 surface (Update.newBuiltins surface h).1 := by
  obtain ⟨passage, outside, surfaced⟩ := newBuiltins_passage watch surface h
  refine ⟨opened.next (opened.passage.trans passage) ?_ ?_ ?_, passage.extended, surfaced⟩
  · exact outside.classes (by simp)
  · exact outside.descriptors (by simp)
  · exact outside.runtimes (by simp)

theorem install (closed : h₀.Closed) {o : ObjectRef} {entries : List (String × Value)}
    (there : h.objects.isLive o = true) (new : ¬ h₀.objects.isLive o = true)
    (live : h.hasEntries entries = true) :
    Opened watch h₀ options rt (Update.install o entries h).2 := by
  have spared := opened.same.spares closed opened.extended new
  have allowed : Event.Allowed watch h (.furnish o entries) := ⟨there, live, spared⟩
  obtain ⟨es, trace, older⟩ := opened.passage
  have passage : Passage watch h₀ (Update.install o entries h).2 := by
    refine ⟨_, trace.snoc allowed, fun p properties member => ?_⟩
    rcases List.mem_append.1 member with early | last
    · exact older p properties early
    · cases List.mem_singleton.1 last
      exact new
  obtain ⟨f, changed, _⟩ := Update.install_heap o entries h
  refine opened.next passage ?_ ?_ ?_ <;> simp only [changed, Heap.mapProperties]

theorem registerHost (closed : h₀.Closed) (name : String) :
    Opened watch h₀ options rt (Update.registerHost rt name none h).2 ∧
      (Update.registerHost rt name none h).2.objects.isLive
        (Update.registerHost rt name none h).1.prototype = true ∧
      ¬ h₀.objects.isLive (Update.registerHost rt name none h).1.prototype = true := by
  have allowed : Event.Allowed watch h (.host rt name none) := ⟨opened.live, nofun⟩
  have passage := opened.passage.trans (.of_event allowed id)
  have same := opened.same.trans (Event.sameDescribed (e := .host rt name none) id h)
  have older := opened.extended.objects.size_le
  have unset := opened.unset
  have root := opened.root
  rw [Event.apply] at passage same
  revert passage same
  rw [Update.registerHost_apply]
  cases found : h.hostNamed rt name with
  | some host =>
    intro _ _
    have there := ((opened.closed closed).host_closed opened.live found).prototype
    rw [Heap.hostNamed, List.lookup_eq_some_iff] at found
    obtain ⟨before, after, split, _⟩ := found
    refine ⟨opened, there, opened.hosts (name, host) ?_⟩
    rw [split]
    exact List.mem_append_right _ List.mem_cons_self
  | none =>
    intro passage same
    have new : ¬ h₀.objects.isLive ⟨h.objects.size + 1⟩ = true := by
      rw [Arena.isLive_iff]
      exact fun below => absurd below (by dsimp only; omega)
    refine ⟨⟨passage, same, ?_, ?_, ?_, ?_, ?_, ?_⟩, ?_, new⟩
    · intro other live
      rw [Arena.isLive_modify] at live
      exact opened.only other live
    · rw [Arena.isLive_modify]
      exact opened.live
    · rw [Heap.runtime, Arena.get_modify opened.live, if_pos rfl]
      exact opened.options
    · rw [Heap.runtime, Arena.get_modify opened.live, if_pos rfl]
      exact unset
    · simp only [Heap.rootPrototype, Heap.klass, Heap.runtime] at root ⊢
      rw [Arena.get_modify opened.live, if_pos rfl]
      exact root
    · intro entry member
      rw [Heap.runtime, Arena.get_modify opened.live, if_pos rfl] at member
      rcases List.mem_append.1 member with old | last
      · exact opened.hosts entry old
      · rw [List.mem_singleton.1 last]
        exact new
    · simp [Arena.fresh_add]

theorem furnish (closed : h₀.Closed) :
    Opened watch h₀ options rt (Update.furnishRuntime options rt h).2 ∧
      Surfaced (Update.furnishRuntime options rt h).2
        (Update.descriptorSurface options.constructorPrefix) (Update.furnishRuntime options rt h).1 := by
  simp only [Update.furnishRuntime, Update.hostStrings, Update.bind_apply, Update.pure_apply,
    Update.get_apply]
  obtain ⟨withMembers, _, surface⟩ := opened.newBuiltins Update.objectSurface
  have root := (withMembers.closed closed).rootPrototype_live withMembers.live
  have rooted := withMembers.install closed root withMembers.root surface.live
  obtain ⟨hosting, there, new⟩ := rooted.registerHost closed "String"
  obtain ⟨withStrings, extended, surface⟩ := hosting.newBuiltins Update.stringSurface
  have stringed := withStrings.install closed (extended.objects.isLive there) new surface.live
  obtain ⟨ready, _, members⟩ :=
    stringed.newBuiltins (Update.descriptorSurface options.constructorPrefix)
  exact ⟨ready, members⟩

end Opened

/-- What building a runtime with these options gives. -/
structure Completed (watch : Watch) (h₀ : Heap) (options : Options) (rt : RuntimeRef) (h : Heap) :
    Prop where
  passage : Passage watch h₀ h
  descriptors : h.descriptors = h₀.descriptors
  only : ∀ other, h.runtimes.isLive other = true → h₀.runtimes.isLive other = true ∨ other = rt
  live : h.runtimes.isLive rt = true
  metadata : ∃ m, (h.runtime rt).metadataClass = some m ∧ (h.klass m).name = options.metadataName ∧
    (h.klass m).superclass = some (h.runtime rt).root
  options : (h.runtime rt).options = options

/-- The metadata class was built, and the runtime does not have it yet. -/
structure MetadataBuilt (watch : Watch) (h : Heap) (options : Options) (rt : RuntimeRef) (h₁ : Heap) :
    Prop where
  passage : Passage watch h h₁
  runtimes : h₁.runtimes = h.runtimes
  descriptors : h₁.descriptors = h.descriptors
  closes : Closes h₁ rt h.classes.fresh
  name : (h₁.klass h.classes.fresh).name = options.metadataName

theorem Opened.buildMetadata {watch : Watch} {h₀ h : Heap} {options : Options} {rt : RuntimeRef}
    {entries : List (String × Value)} (opened : Opened watch h₀ options rt h) (closed : h.Closed)
    (surfaced : Surfaced h (Update.descriptorSurface options.constructorPrefix) entries) :
    MetadataBuilt watch h options rt (Update.buildClass rt
      (Update.descriptorDefinition options.metadataName entries) (h.runtime rt).root h).2 := by
  have distinct : (entries.map Prod.fst).Nodup := by
    rw [surfaced.names]
    exact descriptorSurface_nodup _
  rw [descriptorDefinition_eq distinct]
  generalize definition : ({ name := options.metadataName, members := entries } : Definition) = d
  have allowed : Event.Allowed watch h (.klass rt d (h.runtime rt).root) := by
    subst definition
    refine ⟨opened.live, Heap.hasDefinition_iff.2 ⟨surfaced.live, rfl, ?_, rfl⟩,
      Registry.resolve_empty _ _ _⟩
    intro f initializer
    cases initializer
  have extended : h.Extends (Update.buildClass rt d (h.runtime rt).root h).2 := Event.extends allowed
  have kept := extended.runtime opened.live
  have outside : h.SameOutside _ (Update.buildClass rt d (h.runtime rt).root h).2 :=
    Event.frame (.klass rt d (h.runtime rt).root) h
  have runtimes := outside.runtimes (by simp [Event.footprint])
  have made := Update.buildClass_class rt d (h.runtime rt).root h
  have prototype := Update.buildClass_prototype rt d (h.runtime rt).root h
  have statics := Update.buildClass_statics rt d (h.runtime rt).root h
  refine ⟨.of_event allowed id, runtimes, outside.descriptors (by simp [Event.footprint]), ?_, ?_⟩
  · refine ⟨extended.runtimes.isLive opened.live, ?_, ?_, ?_, ?_, ?_⟩
    · rw [Heap.runtime, runtimes]
      exact opened.unset
    · rw [Update.buildClass_apply]
      simp
    · rw [made, kept.root]
    · rw [made, extended.rootPrototype closed opened.live]
      exact congrArg ObjectCell.prototype statics
    · rw [made, kept.options, opened.options]
      refine (surfaced.later extended).furnished ?_
      rw [prototype, ← definition]
  · rw [made, ← definition]

theorem Update.setMetadataClass_runtime {h : Heap} {rt : RuntimeRef}
    (live : h.runtimes.isLive rt = true) (c : ClassRef) :
    (setMetadataClass rt c h).2.runtime rt = { h.runtime rt with metadataClass := some c } := by
  rw [setMetadataClass, modifyRuntime, Heap.runtime, Arena.get_modify live, if_pos rfl]
  rfl

/-- The last stage: the metadata class is built and given to the runtime. -/
theorem Opened.close {watch : Watch} {h₀ h : Heap} {options : Options} {rt : RuntimeRef}
    {entries : List (String × Value)} (opened : Opened watch h₀ options rt h) (closed : h.Closed)
    (surfaced : Surfaced h (Update.descriptorSurface options.constructorPrefix) entries) :
    Passage watch h (Update.setMetadataClass rt h.classes.fresh (Update.buildClass rt
        (Update.descriptorDefinition options.metadataName entries) (h.runtime rt).root h).2).2 ∧
      Completed watch h₀ options rt (Update.setMetadataClass rt h.classes.fresh (Update.buildClass rt
        (Update.descriptorDefinition options.metadataName entries) (h.runtime rt).root h).2).2 := by
  obtain ⟨built, runtimes, descriptors, closes, name⟩ := opened.buildMetadata closed surfaced
  generalize (Update.buildClass rt _ (h.runtime rt).root h).2 = h₁ at *
  have closing : Passage watch h₁ (Update.setMetadataClass rt h.classes.fresh h₁).2 := by
    refine .single (e := .closeRuntime rt h.classes.fresh) closes ?_
    intro o properties furnishes
    cases furnishes
  have cell := Update.setMetadataClass_runtime closes.live h.classes.fresh
  refine ⟨built.trans closing, opened.passage.trans (built.trans closing),
    descriptors.trans opened.same.descriptors, ?_, ?_, ?_, ?_⟩
  · intro other live
    rw [Update.setMetadataClass, Update.modifyRuntime, Arena.isLive_modify, runtimes] at live
    exact opened.only other live
  · exact closing.extended.runtimes.isLive closes.live
  · refine ⟨h.classes.fresh, by rw [cell], name, ?_⟩
    rw [cell]
    exact closes.superclass
  · rw [cell]
    show (h₁.runtime rt).options = options
    rw [Heap.runtime, runtimes]
    exact opened.options

theorem buildRuntime_completed (watch : Watch) (options : Options) {h : Heap} (closed : h.Closed) :
    Completed watch h options (Update.buildRuntime options h).1 (Update.buildRuntime options h).2 := by
  rw [Update.buildRuntime_eq]
  simp only [Update.bind_apply, Update.pure_apply, Update.get_apply, Update.openRuntime_fst,
    Update.buildClass_fst]
  obtain ⟨ready, members⟩ := (openRuntime_opened watch options h).furnish closed
  exact (ready.close (ready.closed closed) members).2

theorem buildRuntime_passes {watch : Watch} {options : Options} (valid : options.validate = .ok ())
    {h : Heap} (reached : h.Reached watch) : Passes watch h (Update.buildRuntime options h).2 := by
  have completed := buildRuntime_completed watch options reached.closed
  refine ⟨completed.passage, fun rt live new => ?_, fun d live new => ?_⟩
  · have same := (completed.only rt live).resolve_left new
    exact ⟨options, h, reached, valid, same.symm, Passage.refl watch _⟩
  · rw [completed.descriptors] at live
    exact absurd live new

/-- A runtime that was built has acceptable options, and a metadata class that extends the root. -/
theorem Heap.Built.metadata {watch : Watch} {h : Heap} {rt : RuntimeRef} (built : h.Built watch rt) :
    (h.runtime rt).options.validate = .ok () ∧ ∃ m, (h.runtime rt).metadataClass = some m ∧
      h.classes.isLive m = true ∧ (h.klass m).name = (h.runtime rt).options.metadataName ∧
      (h.klass m).superclass = some (h.runtime rt).root := by
  obtain ⟨options, h₀, from₀⟩ := built
  obtain rfl := from₀.made
  have extended := from₀.since.extended
  have completed := buildRuntime_completed watch options from₀.reached.closed
  have kept := extended.runtime completed.live
  obtain ⟨m, set, name, superclass⟩ := completed.metadata
  have closed := completed.passage.closed from₀.reached.closed
  have live := (closed.runtime completed.live).metadataClass m set
  have klass := extended.klass live
  rw [kept.options, kept.root, completed.options]
  exact ⟨from₀.valid, m, kept.metadataClass m set, extended.classes.isLive live,
    klass.name.trans name, klass.superclass.trans superclass⟩

theorem newRuntime_leads {watch : Watch} (options : Options) {h : Heap} (reached : h.Reached watch) :
    Leads watch h (Update.newRuntime options h).2 := by
  have descriptors := (buildRuntime_completed watch options reached.closed).descriptors
  have passes := fun valid : options.validate = .ok () => buildRuntime_passes valid reached
  rw [Update.newRuntime_apply]
  generalize Update.buildRuntime options h = outcome at descriptors passes ⊢
  cases valid : options.validate with
  | error e => exact .refl _ _
  | ok _ => exact .of_passes (passes valid) descriptors

end ProtoClass
