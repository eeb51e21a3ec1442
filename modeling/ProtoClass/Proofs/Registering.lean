import ProtoClass.Proofs.Extends

set_option autoImplicit false

namespace ProtoClass

/-- The class that an event registers in a registry under a name. -/
def Event.registered? (h : Heap) (r : RegistryRef) (name : String) : Event → Option ClassRef
  | register s c => if s = r ∧ (h.klass c).name = name then some c else none
  | klass rt d _ =>
    if (h.runtime rt).registry = r ∧ d.name = name then some h.classes.fresh else none
  | _ => none

/-- The class that was registered last under a name, by events that start in a heap. -/
def Heap.lastRegistered (h : Heap) (r : RegistryRef) (name : String) : List Event → Option ClassRef
  | [] => none
  | e :: es => ((e.apply h).lastRegistered r name es).or (e.registered? h r name)

theorem Registry.get?_modify {a : Arena .registry Registry} {r : RegistryRef} (live : a.isLive r = true)
    (s : RegistryRef) (other name : String) (c : ClassRef) :
    ((a.modify s fun x => (x.register other c).2).get r).get? name =
      (if s = r ∧ other = name then some c else none).or ((a.get r).get? name) := by
  by_cases here : s = r
  · subst here
    rw [Arena.get_modify live, if_pos rfl, get?_register]
    by_cases same : other = name
    · rw [if_pos same.symm, if_pos ⟨rfl, same⟩, Option.some_or]
    · rw [if_neg (Ne.symm same), if_neg fun both => same both.2, Option.none_or]
  · rw [if_neg fun both => here both.1, Option.none_or, Arena.get_modify_of_ne a (Ne.symm here)]

/-- Under a name stands the class that an event registers there, or else the one that stood there. -/
theorem Event.get?_registry {watch : Watch} {h : Heap} {e : Event} (allowed : e.Allowed watch h)
    {r : RegistryRef} (live : h.registries.isLive r = true) (name : String) :
    ((e.apply h).registry r).get? name =
      (e.registered? h r name).or ((h.registry r).get? name) := by
  cases e with
  | register s c =>
    rw [apply, Update.register_apply]
    exact Registry.get?_modify live s (h.klass c).name name c
  | klass rt d p =>
    rw [apply, Update.buildClass_apply]
    exact Registry.get?_modify live (h.runtime rt).registry d.name name h.classes.fresh
  | registry => exact congrArg (Registry.get? · name) (Arena.get_add_of_isLive live _)
  | openRuntime options =>
    rw [apply, Update.openRuntime_apply]
    exact congrArg (Registry.get? · name) (Arena.get_add_of_isLive live _)
  | _ =>
    rw [Heap.registry, (frame _ h).registries (by simp [footprint]), Heap.registry]
    exact (Option.none_or).symm

/-- Under a name stands the class that was registered there last. -/
theorem Trace.get?_registry {watch : Watch} {h h' : Heap} {es : List Event}
    (trace : Trace watch h es h') {r : RegistryRef} (live : h.registries.isLive r = true)
    (name : String) :
    (h'.registry r).get? name =
      (h.lastRegistered r name es).or ((h.registry r).get? name) := by
  induction trace with
  | nil => exact (Option.none_or).symm
  | cons allowed rest ih =>
    rw [ih ((Event.extends allowed).registries.isLive live), Event.get?_registry allowed live,
      Heap.lastRegistered, Option.or_assoc]

end ProtoClass
