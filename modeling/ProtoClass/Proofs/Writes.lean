import ProtoClass.Proofs.Installing

set_option autoImplicit false

/- A property of an object changes only by an event that names the object and the property. Everything
else that happens, the definition of classes among it, leaves the property as it is. -/
namespace ProtoClass

/-- Does the event assign, define, delete or install the property of an object under a name? -/
def Event.Writes (o : ObjectRef) (name : String) : Event → Prop
  | set p n _ => p = o ∧ n = name
  | define p n _ _ => p = o ∧ n = name
  | delete p n => p = o ∧ n = name
  | install p properties => p = o ∧ name ∈ properties.map Prod.fst
  | furnish p properties => p = o ∧ name ∈ properties.map Prod.fst
  | _ => False

/-- An event that does not write a property of an old object leaves it alone. -/
theorem Event.ownProperty_eq {h : Heap} {e : Event} {o : ObjectRef} {name : String}
    (live : h.objects.isLive o = true) (unwritten : ¬ e.Writes o name) :
    (e.apply h).ownProperty o name = h.ownProperty o name := by
  by_cases here : e.written = some o
  · cases e with
    | set p n value =>
      cases here
      have apart : name ≠ n := fun same => unwritten ⟨rfl, same.symm⟩
      rw [apply, Update.set, Update.changeProperties_heap, Heap.ownProperty_mapProperties live,
        PropertyTable.get?_set, if_neg apart]
      rfl
    | define p n value flags =>
      cases here
      have apart : name ≠ n := fun same => unwritten ⟨rfl, same.symm⟩
      rw [apply, Update.define, Update.changeProperties_heap, Heap.ownProperty_mapProperties live,
        PropertyTable.get?_define, if_neg apart]
      rfl
    | delete p n =>
      cases here
      have apart : name ≠ n := fun same => unwritten ⟨rfl, same.symm⟩
      rw [apply, Update.delete, Update.changeProperties_heap, Heap.ownProperty_mapProperties live,
        PropertyTable.get?_delete, if_neg apart]
      rfl
    | install p properties | furnish p properties =>
      cases here
      exact Update.ownProperty_install_of_not_mem live fun among => unwritten ⟨rfl, among⟩
    | _ => cases here
  · rw [Heap.ownProperty, properties_of_unwritten live here, Heap.ownProperty]

/-- A property that no event of a trace writes is the same at its end. -/
theorem Trace.ownProperty_eq {watch : Watch} {h h' : Heap} {es : List Event}
    (trace : Trace watch h es h') {o : ObjectRef} {name : String} (live : h.objects.isLive o = true)
    (unwritten : ∀ e ∈ es, ¬ e.Writes o name) : h'.ownProperty o name = h.ownProperty o name := by
  induction trace with
  | nil => rfl
  | cons allowed rest ih =>
    obtain ⟨first, others⟩ := List.forall_mem_cons.1 unwritten
    rw [ih ((Event.extends allowed).objects.isLive live) others, Event.ownProperty_eq live first]

end ProtoClass
