import ProtoClass.Proofs.Bootstrap
import ProtoClass.Proofs.Installing

set_option autoImplicit false

/- Building a runtime installs the surface of all receivers on the root prototype, and that of strings on
the prototype of their host type. This is an object of its own that delegates to the root prototype,
unless the root is called like the host type of strings: then it is the root prototype itself. Either
way only the tests of prefixes and suffixes are added for strings, as the root prototype has a hash code
already; and nothing is written to the two objects afterwards. -/
namespace ProtoClass

namespace Heap

variable {h : Heap} {o p : ObjectRef}

theorem get_of_alone (alone : (h.object o).prototype = none) (name : String) :
    h.get o name = h.getOwn o name := by
  rw [get_eq_or, chain_of_none alone]
  exact Option.or_none

theorem getOwn_of_empty (empty : (h.object o).properties = .empty) (name : String) :
    h.getOwn o name = none := by
  rw [getOwn, ownProperty, empty, PropertyTable.get?_empty]
  rfl

theorem Closed.get_of_missing (closed : h.Closed) (link : (h.object o).prototype = some p)
    {name : String} (missing : h.getOwn o name = none) : h.get o name = h.get p name := by
  rw [get_eq_or, missing, closed.chain_of_some link, List.tail_cons]
  rfl

theorem Extends.hostNamed {h' : Heap} (extended : h.Extends h') {rt : RuntimeRef}
    (runtime : h.runtimes.isLive rt = true) {name : String} {host : HostType}
    (hosted : h.hostNamed rt name = some host) : h'.hostNamed rt name = some host := by
  obtain ⟨more, hosts⟩ := (extended.runtime runtime).hosts
  rw [Heap.hostNamed] at hosted ⊢
  rw [hosts, List.lookup_append, hosted]
  rfl

/-- Does an object have a built-in function under a name, hidden and pinned? -/
def HasBuiltin (h : Heap) (o : ObjectRef) (name : String) (b : Builtin) : Prop :=
  ∃ f, h.functions.isLive f = true ∧ h.ownProperty o name = some ⟨name, .function f, .hidden⟩ ∧
    (h.function f).code = .builtin b

theorem HasBuiltin.later {h' : Heap} {name : String} {b : Builtin} (has : h.HasBuiltin o name b)
    (extended : h.Extends h') (same : h'.ownProperty o name = h.ownProperty o name) :
    h'.HasBuiltin o name b := by
  obtain ⟨f, live, own, code⟩ := has
  exact ⟨f, extended.functions.isLive live, same.trans own, (extended.function live).code.trans code⟩

theorem HasBuiltin.getOwn {name : String} {b : Builtin} (has : h.HasBuiltin o name b) :
    ∃ f, h.functions.isLive f = true ∧ h.getOwn o name = some (.function f) ∧
      (h.function f).code = .builtin b := by
  obtain ⟨f, live, own, code⟩ := has
  exact ⟨f, live, by rw [Heap.getOwn, own]; rfl, code⟩

end Heap

/-- The members that are installed for strings only. -/
def stringTests : List (String × Builtin) :=
  [("startsWith", .stringStartsWith), ("endsWith", .stringEndsWith)]

/-- A root prototype with the surface of all receivers, and a prototype of strings with the tests. -/
structure Surfaces (h : Heap) (rt : RuntimeRef) (host : HostType) : Prop where
  hosted : h.hostNamed rt "String" = some host
  live : h.objects.isLive host.prototype = true
  root : ∀ member ∈ Update.objectSurface, h.HasBuiltin (h.rootPrototype rt) member.1 member.2
  tests : ∀ member ∈ stringTests, h.HasBuiltin host.prototype member.1 member.2
  /-- The two are one where the root is called like the host type of strings, -/
  joined : (h.runtime rt).options.rootName = "String" → host.prototype = h.rootPrototype rt
  /-- and else the one delegates to the other for all but the tests. -/
  apart : (h.runtime rt).options.rootName ≠ "String" →
    (h.object host.prototype).prototype = some (h.rootPrototype rt) ∧
      ∀ name ∉ stringTests.map Prod.fst, h.getOwn host.prototype name = none

namespace Surfaces

variable {h h' : Heap} {rt : RuntimeRef} {host : HostType} (surfaces : Surfaces h rt host)
include surfaces

/-- The surfaces are still there while the two prototypes keep their properties. -/
theorem later (closed : h.Closed) (runtime : h.runtimes.isLive rt = true) (extended : h.Extends h')
    (root : (h'.object (h.rootPrototype rt)).properties = (h.object (h.rootPrototype rt)).properties)
    (strings : (h'.object host.prototype).properties = (h.object host.prototype).properties) :
    Surfaces h' rt host := by
  have kept := extended.rootPrototype closed runtime
  have options := (extended.runtime runtime).options
  constructor
  case hosted => exact extended.hostNamed runtime surfaces.hosted
  case live => exact extended.objects.isLive surfaces.live
  case root =>
    intro member among
    rw [kept]
    apply (surfaces.root member among).later extended
    rw [Heap.ownProperty, root, Heap.ownProperty]
  case tests =>
    intro member among
    apply (surfaces.tests member among).later extended
    rw [Heap.ownProperty, strings, Heap.ownProperty]
  case joined =>
    rw [options, kept]
    exact surfaces.joined
  case apart =>
    intro other
    rw [options] at other
    obtain ⟨link, missing⟩ := surfaces.apart other
    rw [kept, (extended.object surfaces.live).prototype]
    refine ⟨link, fun name unlisted => ?_⟩
    rw [Heap.getOwn, Heap.ownProperty, strings]
    exact missing name unlisted

/-- Strings see both surfaces, whether their prototype is that of the root or not. -/
theorem lookup (closed : h.Closed) {member : String × Builtin}
    (among : member ∈ stringTests ++ Update.objectSurface) (s : StringRef) :
    ∃ f, h.lookup rt (.string s) member.1 = some (.function f) ∧
      (h.function f).code = .builtin member.2 := by
  have own : h.HasBuiltin host.prototype member.1 member.2 → ∃ f,
      h.get host.prototype member.1 = some (.function f) ∧ (h.function f).code = .builtin member.2 := by
    intro has
    obtain ⟨f, _, found, code⟩ := has.getOwn
    exact ⟨f, Heap.get_of_getOwn found, code⟩
  rw [Heap.lookup, Heap.memberSource, surfaces.hosted]
  rcases List.mem_append.1 among with test | shared
  · exact own (surfaces.tests member test)
  · by_cases same : (h.runtime rt).options.rootName = "String"
    · apply own
      rw [surfaces.joined same]
      exact surfaces.root member shared
    · obtain ⟨link, missing⟩ := surfaces.apart same
      obtain ⟨f, _, found, code⟩ := (surfaces.root member shared).getOwn
      have apart : ∀ member ∈ Update.objectSurface, member.1 ∉ stringTests.map Prod.fst := by decide
      refine ⟨f, ?_, code⟩
      exact (closed.get_of_missing link (missing _ (apart member shared))).trans (Heap.get_of_getOwn found)

end Surfaces

/-- Members of a surface are functions. -/
theorem Surfaced.function_of_lookup {h : Heap} {surface : List (String × Builtin)}
    {entries : List (String × Value)} (surfaced : Surfaced h surface entries)
    (distinct : (surface.map Prod.fst).Nodup) {name : String} {v : Value}
    (found : entries.lookup name = some v) : ∃ f, v = .function f := by
  by_cases among : name ∈ surface.map Prod.fst
  · obtain ⟨member, listed, rfl⟩ := List.mem_map.1 among
    obtain ⟨f, stored, _⟩ := surfaced.lookup distinct listed
    exact ⟨f, Option.some.inj (found.symm.trans stored)⟩
  · cases (surfaced.lookup_eq_none among).symm.trans found

/-- The root prototype has the surface of all receivers and sees nothing else. -/
structure RootSurface (h : Heap) (rt : RuntimeRef) (rooted : List (String × Value)) : Prop where
  surfaced : Surfaced h Update.objectSurface rooted
  alone : (h.object (h.rootPrototype rt)).prototype = none
  own : ∀ name, h.ownProperty (h.rootPrototype rt) name =
    (rooted.lookup name).map fun value => ⟨name, value, .hidden⟩

namespace RootSurface

variable {h h' : Heap} {rt : RuntimeRef} {rooted entries : List (String × Value)}

/-- The surface is installed on a prototype that has nothing. -/
theorem install (live : h.objects.isLive (h.rootPrototype rt) = true)
    (empty : (h.object (h.rootPrototype rt)).properties = .empty)
    (alone : (h.object (h.rootPrototype rt)).prototype = none)
    (surfaced : Surfaced h Update.objectSurface rooted) :
    RootSurface (Update.install (h.rootPrototype rt) rooted h).2 rt rooted := by
  have unseen : ∀ name, h.get (h.rootPrototype rt) name = none := fun name =>
    (Heap.get_of_alone alone name).trans (Heap.getOwn_of_empty empty name)
  have own := Update.install_ownProperty live fun entry (_ : entry ∈ rooted) v seen => by
    cases (unseen entry.1).symm.trans seen
  have extended := h.extends_install (h.rootPrototype rt) rooted
  obtain ⟨g, changed, _⟩ := Update.install_heap (h.rootPrototype rt) rooted h
  have root : (Update.install (h.rootPrototype rt) rooted h).2.rootPrototype rt =
      h.rootPrototype rt := by
    rw [changed]
    rfl
  refine ⟨surfaced.later extended, ?_, fun name => ?_⟩
  · rw [root, (extended.object live).prototype]
    exact alone
  · rw [root, own, unseen]
    rfl

theorem get (root : RootSurface h rt rooted) (name : String) :
    h.get (h.rootPrototype rt) name = rooted.lookup name := by
  rw [Heap.get_of_alone root.alone name, Heap.getOwn, root.own]
  cases rooted.lookup name <;> rfl

/-- The root prototype sees exactly the members of its surface. -/
theorem isSome_get (root : RootSurface h rt rooted) (name : String) :
    (h.get (h.rootPrototype rt) name).isSome = true ↔ name ∈ Update.objectSurface.map Prod.fst := by
  rw [root.get]
  by_cases among : name ∈ Update.objectSurface.map Prod.fst
  · obtain ⟨member, listed, rfl⟩ := List.mem_map.1 among
    obtain ⟨f, stored, _⟩ := root.surfaced.lookup (by decide) listed
    simp [stored, among]
  · simp [root.surfaced.lookup_eq_none among, among]

theorem hasBuiltin (root : RootSurface h rt rooted) {member : String × Builtin}
    (among : member ∈ Update.objectSurface) :
    h.HasBuiltin (h.rootPrototype rt) member.1 member.2 := by
  obtain ⟨f, stored, live, code⟩ := root.surfaced.lookup (by decide) among
  exact ⟨f, live, by rw [root.own, stored]; rfl, code⟩

theorem later (root : RootSurface h rt rooted) (closed : h.Closed) (extended : h.Extends h')
    (runtime : h.runtimes.isLive rt = true)
    (same : (h'.object (h.rootPrototype rt)).properties =
      (h.object (h.rootPrototype rt)).properties) : RootSurface h' rt rooted := by
  have kept := extended.rootPrototype closed runtime
  refine ⟨root.surfaced.later extended, ?_, fun name => ?_⟩
  · rw [kept, (extended.object (closed.rootPrototype_live runtime)).prototype]
    exact root.alone
  · rw [kept, Heap.ownProperty, same]
    exact root.own name

/-- Of what is installed on it, an object that sees what the root prototype sees gets those members that
are not in the surface of all receivers. -/
theorem ownProperty_below (root : RootSurface h rt rooted) {o : ObjectRef}
    (live : h.objects.isLive o = true)
    (sees : ∀ name, h.get o name = h.get (h.rootPrototype rt) name)
    (entries : List (String × Value)) (name : String) :
    (Update.install o entries h).2.ownProperty o name =
      if name ∈ Update.objectSurface.map Prod.fst then h.ownProperty o name
      else (entries.lookup name).map fun value => ⟨name, value, .hidden⟩ := by
  have truthy : ∀ entry ∈ entries, ∀ v, h.get o entry.1 = some v → h.isTruthy v = true := by
    intro entry _ v seen
    rw [sees, root.get] at seen
    obtain ⟨f, rfl⟩ := root.surfaced.function_of_lookup (by decide) seen
    rfl
  rw [Update.install_ownProperty live truthy, sees]
  simp only [root.isSome_get]

end RootSurface

/-- Has a runtime no other host type than its root? -/
def Heap.HostsRoot (h : Heap) (rt : RuntimeRef) : Prop :=
  ∃ host, (h.runtime rt).hosts = [((h.runtime rt).options.rootName, host)] ∧
    host.prototype = h.rootPrototype rt

/-- A runtime that is being built, with the surface of all receivers on its root prototype. -/
structure RootReady (h : Heap) (rt : RuntimeRef) (rooted : List (String × Value)) : Prop
    extends RootSurface h rt rooted where
  closed : h.Closed
  live : h.runtimes.isLive rt = true
  hosted : h.HostsRoot rt

/-- The host type of strings is there: with the prototype of the root, or with an empty object that
delegates to it. -/
structure StringsHosted (h : Heap) (rt : RuntimeRef) (host : HostType) : Prop where
  hosted : h.hostNamed rt "String" = some host
  joined : (h.runtime rt).options.rootName = "String" → host.prototype = h.rootPrototype rt
  apart : (h.runtime rt).options.rootName ≠ "String" →
    h.object host.prototype = { prototype := some (h.rootPrototype rt) }

/-- A host type that is new has a prototype without properties. -/
theorem Update.registerHost_new {h : Heap} {rt : RuntimeRef} {name : String}
    (runtime : h.runtimes.isLive rt = true) (unhosted : h.hostNamed rt name = none) :
    (registerHost rt name none h).2.hostNamed rt name = some (registerHost rt name none h).1 ∧
      (registerHost rt name none h).2.object (registerHost rt name none h).1.prototype =
        { prototype := some (h.rootPrototype rt) } := by
  rw [registerHost_apply, unhosted]
  constructor
  · rw [Heap.hostNamed] at unhosted ⊢
    rw [Heap.runtime, Arena.get_modify runtime, if_pos rfl]
    show ((h.runtime rt).hosts ++ [(name, _)]).lookup name = _
    rw [List.lookup_append, unhosted, List.lookup_cons, beq_self_eq_true]
    rfl
  · rw [Heap.object, ← Arena.size_add h.objects { prototype := some (h.rootPrototype rt) }]
    exact Arena.get_add_fresh _ _

theorem RootReady.registerHost {h : Heap} {rt : RuntimeRef} {rooted : List (String × Value)}
    (ready : RootReady h rt rooted) (extended : h.Extends (Update.registerHost rt "String" none h).2) :
    StringsHosted (Update.registerHost rt "String" none h).2 rt
      (Update.registerHost rt "String" none h).1 := by
  obtain ⟨root, hosts, prototype⟩ := ready.hosted
  by_cases same : (h.runtime rt).options.rootName = "String"
  · have hosted : h.hostNamed rt "String" = some root := by
      rw [Heap.hostNamed, hosts, same]
      rfl
    have unchanged : Update.registerHost rt "String" none h = (root, h) := by
      rw [Update.registerHost_apply, hosted]
    rw [unchanged]
    exact ⟨hosted, fun _ => prototype, fun other => absurd same other⟩
  · have unhosted : h.hostNamed rt "String" = none := by
      rw [Heap.hostNamed, hosts, List.lookup_cons, beq_eq_false_iff_ne.2 (Ne.symm same)]
      rfl
    obtain ⟨hosted, cell⟩ := Update.registerHost_new ready.live unhosted
    refine ⟨hosted, fun joined => ?_, fun _ => ?_⟩
    · rw [(extended.runtime ready.live).options] at joined
      exact absurd joined same
    · rw [cell, extended.rootPrototype ready.closed ready.live]

namespace StringsHosted

variable {h : Heap} {rt : RuntimeRef} {host : HostType} {rooted entries : List (String × Value)}

theorem prototype_live (strings : StringsHosted h rt host) (closed : h.Closed)
    (runtime : h.runtimes.isLive rt = true) : h.objects.isLive host.prototype = true :=
  (closed.host_closed runtime strings.hosted).prototype

/-- Before anything is installed on it, the prototype of strings sees what the root prototype sees. -/
theorem get (strings : StringsHosted h rt host) (closed : h.Closed) (name : String) :
    h.get host.prototype name = h.get (h.rootPrototype rt) name := by
  by_cases same : (h.runtime rt).options.rootName = "String"
  · rw [strings.joined same]
  · have cell := strings.apart same
    exact closed.get_of_missing (by rw [cell]) (Heap.getOwn_of_empty (by rw [cell]) name)

/-- Installing the surface of strings completes the two surfaces. -/
theorem install (strings : StringsHosted h rt host) (root : RootSurface h rt rooted)
    (closed : h.Closed) (runtime : h.runtimes.isLive rt = true)
    (surfaced : Surfaced h Update.stringSurface entries) :
    Surfaces (Update.install host.prototype entries h).2 rt host := by
  have live := strings.prototype_live closed runtime
  have own := root.ownProperty_below live (strings.get closed) entries
  have extended := h.extends_install host.prototype entries
  have kept := extended.rootPrototype closed runtime
  have options := (extended.runtime runtime).options
  obtain ⟨g, changed, _⟩ := Update.install_heap host.prototype entries h
  constructor
  case hosted => exact extended.hostNamed runtime strings.hosted
  case live => exact extended.objects.isLive live
  case root =>
    intro member among
    have named := List.mem_map_of_mem (f := Prod.fst) among
    rw [kept]
    apply (root.hasBuiltin among).later extended
    by_cases same : h.rootPrototype rt = host.prototype
    · rw [same, own, if_pos named]
    · rw [changed, Heap.ownProperty, h.properties_mapProperties_of_ne same]
      rfl
  case tests =>
    intro member among
    have listed : member ∈ Update.stringSurface := List.mem_cons_of_mem _ among
    have new : member.1 ∉ Update.objectSurface.map Prod.fst := by
      revert member
      decide
    obtain ⟨f, stored, there, code⟩ := surfaced.lookup (by decide) listed
    refine ⟨f, extended.functions.isLive there, ?_, (extended.function there).code.trans code⟩
    rw [own, if_neg new, stored]
    rfl
  case joined =>
    intro same
    rw [kept]
    exact strings.joined (options ▸ same)
  case apart =>
    intro other
    have cell := strings.apart (options ▸ other)
    refine ⟨?_, fun name missing => ?_⟩
    · rw [(extended.object live).prototype, cell, kept]
    · rw [Heap.getOwn, own]
      split
      · exact Heap.getOwn_of_empty (by rw [cell]) name
      · next new =>
        -- the hash code is on the root prototype already, and there are no other names
        have unlisted : name ∉ Update.stringSurface.map Prod.fst := by
          intro listed
          rcases List.mem_cons.1 listed with rfl | test
          · exact new (by decide)
          · exact missing test
        rw [surfaced.lookup_eq_none unlisted]
        rfl

end StringsHosted

theorem RootReady.surfaces {h : Heap} {rt : RuntimeRef} {rooted : List (String × Value)}
    (ready : RootReady h rt rooted) :
    (Update.hostStrings rt h).2.Closed ∧ (Update.hostStrings rt h).2.runtimes.isLive rt = true ∧
      Surfaces (Update.hostStrings rt h).2 rt (Update.hostStrings rt h).1 := by
  simp only [Update.hostStrings, Update.bind_apply, Update.pure_apply]
  have allowed : Event.Allowed .still h (.host rt "String" none) := by
    refine ⟨ready.live, fun f made => ?_⟩
    cases made
  have hosting : Passage .still h (Update.registerHost rt "String" none h).2 := .of_event allowed id
  have strings := ready.registerHost hosting.extended
  generalize Update.registerHost rt "String" none h = hosting' at *
  obtain ⟨host, h₁⟩ := hosting'
  obtain ⟨builtins, outside, surfaced⟩ := newBuiltins_passage .still Update.stringSurface h₁
  generalize Update.newBuiltins Update.stringSurface h₁ = surface at *
  obtain ⟨entries, h₂⟩ := surface
  have passage := hosting.trans builtins
  have runtimes := outside.runtimes (by simp)
  have classes := outside.classes (by simp)
  have strings' : StringsHosted h₂ rt host := by
    refine ⟨?_, ?_, ?_⟩
    · rw [Heap.hostNamed, Heap.runtime, runtimes]
      exact strings.hosted
    · rw [Heap.rootPrototype, Heap.klass, classes, Heap.runtime, runtimes]
      exact strings.joined
    · rw [Heap.rootPrototype, Heap.klass, classes, Heap.runtime, runtimes, Heap.object,
        outside.objects (by simp)]
      exact strings.apart
  have live := passage.extended.runtimes.isLive ready.live
  have root := ready.later ready.closed passage.extended ready.live
    (passage.still (ready.closed.rootPrototype_live ready.live))
  have closed := passage.closed ready.closed
  refine ⟨closed.install surfaced.live, ?_, strings'.install root closed live surfaced⟩
  exact (h₂.extends_install host.prototype entries).runtimes.isLive live

/-- A runtime that was opened gets both surfaces before it gets its metadata class. -/
theorem furnishRuntime_surfaces (options : Options) {h : Heap} (closed : h.Closed) :
    ∃ host, Surfaces (Update.furnishRuntime options h.runtimes.fresh (Update.openRuntime options h).2).2
      h.runtimes.fresh host := by
  simp only [Update.furnishRuntime, Update.bind_apply, Update.get_apply]
  obtain ⟨withMembers, _, surface⟩ :=
    (openRuntime_opened .still options h).newBuiltins Update.objectSurface
  obtain ⟨_, outside, _⟩ :=
    newBuiltins_passage .still Update.objectSurface (Update.openRuntime options h).2
  have opening : (Update.newBuiltins Update.objectSurface (Update.openRuntime options h).2).2.runtime
      h.runtimes.fresh = (Update.openRuntime options h).2.runtime h.runtimes.fresh := by
    rw [Heap.runtime, outside.runtimes (by simp), Heap.runtime]
  rw [Update.openRuntime_runtime] at opening
  have prototype : (Update.newBuiltins Update.objectSurface
      (Update.openRuntime options h).2).2.rootPrototype h.runtimes.fresh = h.objects.fresh := by
    rw [Heap.rootPrototype, opening, Heap.klass, outside.classes (by simp), ← Heap.klass,
      Update.openRuntime_class]
  have cell : (Update.newBuiltins Update.objectSurface (Update.openRuntime options h).2).2.object
      h.objects.fresh = { boundClass := some h.classes.fresh } := by
    rw [Heap.object, outside.objects (by simp)]
    exact Update.openRuntime_prototype options h
  have hosted : (Update.newBuiltins Update.objectSurface (Update.openRuntime options h).2).2.HostsRoot
      h.runtimes.fresh := by
    rw [Heap.HostsRoot, opening, prototype]
    exact ⟨_, rfl, rfl⟩
  generalize Update.newBuiltins Update.objectSurface (Update.openRuntime options h).2 = made at *
  obtain ⟨entries, h₁⟩ := made
  have live := (withMembers.closed closed).rootPrototype_live withMembers.live
  have rooted := withMembers.install closed live withMembers.root surface.live
  have root := RootSurface.install live (by rw [prototype, cell]) (by rw [prototype, cell]) surface
  obtain ⟨g, changed, _⟩ := Update.install_heap (h₁.rootPrototype h.runtimes.fresh) entries h₁
  have ready : RootReady (Update.install (h₁.rootPrototype h.runtimes.fresh) entries h₁).2
      h.runtimes.fresh entries := by
    refine ⟨root, rooted.closed closed, rooted.live, ?_⟩
    rw [changed]
    exact hosted
  -- the functions for descriptor objects that are made last leave the two prototypes alone
  obtain ⟨closed', runtime, surfaces⟩ := ready.surfaces
  obtain ⟨last, outside', _⟩ := newBuiltins_passage .still
    (Update.descriptorSurface options.constructorPrefix) (Update.hostStrings h.runtimes.fresh _).2
  have same := outside'.objects (by simp)
  refine ⟨_, surfaces.later closed' runtime last.extended ?_ ?_⟩ <;> rw [Heap.object, same, Heap.object]

/-- The surfaces are installed in the course of building a runtime, and the rest of it is a passage. -/
theorem buildRuntime_surfaces (watch : Watch) (options : Options) {h : Heap} (closed : h.Closed) :
    ∃ h₁ host, h₁.Closed ∧ h₁.runtimes.isLive (Update.buildRuntime options h).1 = true ∧
      Surfaces h₁ (Update.buildRuntime options h).1 host ∧
      Passage watch h₁ (Update.buildRuntime options h).2 := by
  rw [Update.buildRuntime_eq]
  simp only [Update.bind_apply, Update.pure_apply, Update.get_apply, Update.openRuntime_fst,
    Update.buildClass_fst]
  obtain ⟨host, surfaces⟩ := furnishRuntime_surfaces options closed
  obtain ⟨ready, members⟩ := (openRuntime_opened watch options h).furnish closed
  have rest := (ready.close (ready.closed closed) members).1
  exact ⟨_, host, ready.closed closed, ready.live, surfaces, rest⟩

end ProtoClass
