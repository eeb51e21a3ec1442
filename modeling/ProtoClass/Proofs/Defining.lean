import ProtoClass.Proofs.Closed
import ProtoClass.Proofs.Tables

set_option autoImplicit false

/- A definition that is refused ends before it has done anything. Any other builds the class, in one
step, and then calls its static initializer if there is one; what the initializer finds is the class
that was built: attached to its superclass, bound, filled and registered, and with neither a descriptor
nor an identity. -/
namespace ProtoClass

namespace Setting

variable {σ : Type} {s : Setting σ} {w : World σ} {rt : RuntimeRef} {d : Definition}

/-- What is left to do when a class has been built. -/
def finishClass (s : Setting σ) (rt : RuntimeRef) (d : Definition) (c : ClassRef) : Action σ ClassRef :=
  match d.initializer with
  | some f => s.call f rt (.klass c) [] >>= fun _ => pure c
  | none => pure c

theorem defineClass_of_resolved {p : ClassRef}
    (resolved : (w.heap.registryOf rt).resolve d.name d.superclass (w.heap.runtime rt).root = .ok p) :
    s.defineClass rt d w =
      s.finishClass rt d w.heap.classes.fresh
        { w with heap := (Update.buildClass rt d p w.heap).2 } := by
  unfold defineClass
  rw [Action.heap_bind_apply, Action.bind_of_ok (congrArg (fun r => some (r, w)) resolved),
    Action.bind_of_ok rfl, Update.buildClass_fst]
  unfold finishClass
  cases d.initializer <;> rfl

theorem defineClass_of_unresolved {e : Error}
    (unresolved : (w.heap.registryOf rt).resolve d.name d.superclass (w.heap.runtime rt).root =
      .error e) : s.defineClass rt d w = some (.error e, w) := by
  unfold defineClass
  rw [Action.heap_bind_apply, Action.bind_of_error (congrArg (fun r => some (r, w)) unresolved)]

theorem perform_defineClass {p : ClassRef} (live : Request.isLive w.heap (.defineClass rt d) = true)
    (asked : s.watch.mayAsk w.heap (.defineClass rt d) = true)
    (resolved : (w.heap.registryOf rt).resolve d.name d.superclass (w.heap.runtime rt).root = .ok p) :
    s.perform (.defineClass rt d) w =
      s.finishClass rt d w.heap.classes.fresh
        { w with heap := (Update.buildClass rt d p w.heap).2 } :=
  (perform_apply live asked).trans (defineClass_of_resolved resolved)

section Flat

variable {name superclass : String} {entries : List (String × Value)}
  {annotations : Option (List (String × Value))}

theorem defineFlat_of_read
    (read : Definition.parse name superclass entries annotations
      (w.heap.runtime rt).options.staticMarker = .ok d) :
    s.defineFlat rt name superclass entries annotations w = s.defineClass rt d w := by
  unfold defineFlat
  rw [Action.heap_bind_apply, Action.bind_of_ok (congrArg (fun r => some (r, w)) read)]

theorem defineFlat_of_unread {e : Error}
    (unread : Definition.parse name superclass entries annotations
      (w.heap.runtime rt).options.staticMarker = .error e) :
    s.defineFlat rt name superclass entries annotations w = some (.error e, w) := by
  unfold defineFlat
  rw [Action.heap_bind_apply, Action.bind_of_error (congrArg (fun r => some (r, w)) unread)]

end Flat

theorem finishClass_of_none (plain : d.initializer = none) (c : ClassRef) :
    s.finishClass rt d c w = some (.ok c, w) := by
  unfold finishClass
  rw [plain]
  rfl

theorem finishClass_of_some {f : FunctionRef} (initialized : d.initializer = some f) (c : ClassRef) :
    s.finishClass rt d c = s.call f rt (.klass c) [] >>= fun _ => pure c := by
  unfold finishClass
  rw [initialized]

/-- The class is given out, or the error of the initializer, with the world that the call has left. -/
theorem finishClass_inv {c : ClassRef} {r : Except Error ClassRef} {w' : World σ}
    (run : s.finishClass rt d c w = some (r, w')) :
    (d.initializer = none ∧ r = .ok c ∧ w' = w) ∨
      ∃ f, d.initializer = some f ∧
        ((∃ answer, s.call f rt (.klass c) [] w = some (.ok answer, w') ∧ r = .ok c) ∨
          ∃ e, s.call f rt (.klass c) [] w = some (.error e, w') ∧ r = .error e) := by
  cases initializer : d.initializer with
  | none =>
    rw [finishClass_of_none initializer] at run
    cases run
    exact Or.inl ⟨rfl, rfl, rfl⟩
  | some f =>
    rw [finishClass_of_some initializer] at run
    refine Or.inr ⟨f, rfl, ?_⟩
    rcases Action.bind_inv run with ⟨e, failed, same⟩ | ⟨answer, w₁, called, finished⟩
    · exact Or.inr ⟨e, failed, same⟩
    · cases finished
      exact Or.inl ⟨answer, called, rfl⟩

end Setting

/-- A class stands in its place: below its superclass, with its parts linked to each other. -/
structure Attached (h : Heap) (rt : RuntimeRef) (d : Definition) (p c : ClassRef) : Prop where
  name : (h.klass c).name = d.name
  superclass : (h.klass c).superclass = some p
  prototype : (h.object (h.klass c).prototype).prototype = some (h.klass p).prototype
  bound : (h.object (h.klass c).prototype).boundClass = some c
  statics : (h.object (h.klass c).statics).prototype = some (h.rootPrototype rt)
  annotations : (h.object (h.klass c).annotations).prototype = some (h.rootPrototype rt)

/-- A table holds entries: plain properties, each with the last value that is given under its name, in the
order in which the names come first. -/
structure PropertyTable.Holds (t : PropertyTable) (entries : List (String × Value)) : Prop where
  get? : ∀ name, t.get? name = (entries.reverse.lookup name).map fun value => ⟨name, value, .plain⟩
  names : t.names = (entries.map Prod.fst).eraseDups

/-- A class has what its definition declares. -/
structure Stocked (h : Heap) (d : Definition) (c : ClassRef) : Prop where
  members : (h.object (h.klass c).prototype).properties.Holds d.members
  annotations : (h.object (h.klass c).annotations).properties.Holds (d.annotations.getD [])
  static : ∀ name, name ≠ "toString" → h.ownProperty (h.klass c).statics name =
    (d.statics.reverse.lookup name).map fun value => ⟨name, value, .plain⟩
  /-- Under one name there is no declared static, but the text that every class makes. -/
  text : ∃ f, h.ownProperty (h.klass c).statics "toString" =
      some ⟨"toString", .function f, ⟨true, false, true⟩⟩ ∧
    (h.function f).code = .builtin (.classToString d.name)
  statics : (h.object (h.klass c).statics).properties.names =
    (d.statics.map Prod.fst ++ ["toString"]).eraseDups

/-- A class is new: it has no descriptor, and neither it nor one of its parts has an identity. -/
structure Untouched (h : Heap) (c : ClassRef) : Prop where
  descriptor : (h.klass c).descriptor = none
  identity : h.identity? (.klass c) = none
  prototype : h.identity? (.object (h.klass c).prototype) = none
  annotations : h.identity? (.object (h.klass c).annotations) = none

/-- Does a name stand for a class, as the name of a superclass: the empty one for the root, any other for
the class that holds it? -/
def Heap.NamesClass (h : Heap) (rt : RuntimeRef) (name : String) (c : ClassRef) : Prop :=
  if name = "" then c = (h.runtime rt).root else h.classNamed rt name = some c

/-- A definition has made a class, and nothing else has happened since. -/
structure Made (h₀ : Heap) (rt : RuntimeRef) (d : Definition) (p c : ClassRef) (h : Heap) : Prop where
  /-- The superclass is the class that held the name before, also where the new class takes it over. -/
  parent : h₀.NamesClass rt d.superclass p
  new : h₀.classes.isLive c = false
  live : h.classes.isLive c = true
  attached : Attached h rt d p c
  stocked : Stocked h d c
  registered : h.classNamed rt d.name = some c
  untouched : Untouched h c
  counters : h.counters = h₀.counters

theorem Heap.namesClass_of_resolved {h : Heap} {rt : RuntimeRef} {name superclass : String}
    {p : ClassRef}
    (resolved : (h.registryOf rt).resolve name superclass (h.runtime rt).root = .ok p) :
    h.NamesClass rt superclass p := by
  unfold Registry.resolve at resolved
  unfold NamesClass
  split at resolved
  · next unnamed =>
    cases resolved
    rw [if_pos unnamed]
  · next named =>
    rw [if_neg named]
    split at resolved
    · next c registered =>
      cases resolved
      exact registered
    · cases resolved

theorem PropertyTable.holds_ofEntries (entries : List (String × Value)) :
    (PropertyTable.ofEntries entries).Holds entries :=
  ⟨fun name => get?_ofEntries name entries, names_ofEntries entries⟩

theorem PropertyTable.Holds.value {t : PropertyTable} {entries : List (String × Value)}
    (holds : t.Holds entries) (name : String) :
    (t.get? name).map Property.value = entries.reverse.lookup name := by
  rw [holds.get?, Option.map_map]
  exact congrFun Option.map_id _

theorem Attached.later {h h' : Heap} {rt : RuntimeRef} {d : Definition} {p c : ClassRef}
    (attached : Attached h rt d p c) (closed : h.Closed) (extended : h.Extends h')
    (runtime : h.runtimes.isLive rt = true) (live : h.classes.isLive c = true) :
    Attached h' rt d p c := by
  have klass := extended.klass live
  have parts := closed.klass live
  have parent := extended.klass (closed.superclass_older attached.superclass).2
  have root := extended.rootPrototype closed runtime
  have prototype := extended.object parts.prototype
  refine ⟨klass.name.trans attached.name, klass.superclass.trans attached.superclass, ?_, ?_, ?_, ?_⟩
  · rw [klass.prototype, parent.prototype, prototype.prototype, attached.prototype]
  · rw [klass.prototype, prototype.boundClass, attached.bound]
  · rw [klass.statics, root, (extended.object parts.statics).prototype, attached.statics]
  · rw [klass.annotations, root, (extended.object parts.annotations).prototype, attached.annotations]

namespace Update

section Built

variable {h : Heap} (rt : RuntimeRef) (d : Definition) (p : ClassRef)

theorem isLive_buildClass_fresh :
    (buildClass rt d p h).2.classes.isLive h.classes.fresh = true := by
  rw [buildClass_apply]
  simp

theorem attached_buildClass (closed : h.Closed) (runtime : h.runtimes.isLive rt = true)
    (parent : h.classes.isLive p = true) :
    Attached (buildClass rt d p h).2 rt d p h.classes.fresh := by
  have klass := buildClass_class rt d p h
  have extended := h.extends_buildClass rt d p
  refine ⟨?_, ?_, ?_, ?_, ?_, ?_⟩
  · rw [klass]
  · rw [klass]
  · rw [klass, buildClass_prototype, (extended.klass parent).prototype]
  · rw [klass, buildClass_prototype]
  · rw [klass, buildClass_statics, extended.rootPrototype closed runtime]
  · rw [klass, buildClass_annotations, extended.rootPrototype closed runtime]

theorem stocked_buildClass : Stocked (buildClass rt d p h).2 d h.classes.fresh := by
  have klass := buildClass_class rt d p h
  have statics := buildClass_statics rt d p h
  refine ⟨?_, ?_, fun name other => ?_, ⟨h.functions.fresh, ?_, ?_⟩, ?_⟩
  · rw [klass, buildClass_prototype]
    exact PropertyTable.holds_ofEntries d.members
  · rw [klass, buildClass_annotations]
    exact PropertyTable.holds_ofEntries (d.annotations.getD [])
  · rw [klass, Heap.ownProperty, statics, PropertyTable.get?_define, if_neg other,
      PropertyTable.get?_ofEntries]
  · -- a declared static of that name is configurable, so it is defined anew
    rw [klass, Heap.ownProperty, statics, PropertyTable.get?_define, if_pos rfl,
      PropertyTable.redefined, PropertyTable.get?_ofEntries]
    cases d.statics.reverse.lookup "toString" <;> rfl
  · rw [buildClass_function]
  · rw [klass, statics, PropertyTable.names_define, PropertyTable.names_ofEntries,
      List.eraseDups_append]
    by_cases old : "toString" ∈ d.statics.map Prod.fst
    · simp [old, List.removeAll]
    · simp [old, List.removeAll, List.eraseDups_cons]

theorem untouched_buildClass : Untouched (buildClass rt d p h).2 h.classes.fresh := by
  have klass := buildClass_class rt d p h
  refine ⟨?_, ?_, ?_, ?_⟩
  · rw [klass]
  · rw [Heap.identity?, klass, buildClass_statics]
  · rw [Heap.identity?, klass, buildClass_prototype]
  · rw [Heap.identity?, klass, buildClass_annotations]

end Built

section Registered

variable {h : Heap} {rt : RuntimeRef} (live : h.registries.isLive (h.runtime rt).registry = true)
  (d : Definition) (p : ClassRef)
include live

theorem registryOf_buildClass :
    (buildClass rt d p h).2.registryOf rt = ((h.registryOf rt).register d.name h.classes.fresh).2 := by
  rw [buildClass_apply]
  exact (Arena.get_modify live _ _).trans (if_pos rfl)

/-- The class is registered under its name, and of the other names nothing has changed. -/
theorem classNamed_buildClass (name : String) :
    (buildClass rt d p h).2.classNamed rt name =
      if name = d.name then some h.classes.fresh else h.classNamed rt name := by
  rw [Heap.classNamed, registryOf_buildClass live, Registry.get?_register, Heap.classNamed]

end Registered

theorem made_buildClass {h : Heap} (closed : h.Closed) {rt : RuntimeRef} {d : Definition}
    {p : ClassRef} (allowed : Event.Allowed {} h (.klass rt d p)) :
    Made h rt d p h.classes.fresh (buildClass rt d p h).2 where
  parent := Heap.namesClass_of_resolved allowed.2.2
  new := Arena.isLive_fresh h.classes
  live := isLive_buildClass_fresh rt d p
  attached := attached_buildClass rt d p closed allowed.1 (closed.resolve_live allowed.1 allowed.2.2)
  stocked := stocked_buildClass rt d p
  registered := by rw [classNamed_buildClass (closed.runtime allowed.1).registry, if_pos rfl]
  untouched := untouched_buildClass rt d p
  counters := by rw [buildClass_apply]

end Update

end ProtoClass
