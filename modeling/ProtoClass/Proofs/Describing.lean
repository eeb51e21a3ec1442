import ProtoClass.Proofs.Widening
import ProtoClass.Proofs.WritingRequests

set_option autoImplicit false

/- As long as the prototypes of metadata classes are spared, a request for the descriptor of a class
ends with one: the class that describes is in place, it has the built-in constructor under the name
that describing looks for, and this constructor writes to new objects only. -/
namespace ProtoClass

/-- The runtimes are the same, and so are the objects that were there, but possibly these. -/
structure Heap.SparesBut (but : ObjectRef → Prop) (h h' : Heap) : Prop where
  runtimes : h'.runtimes = h.runtimes
  objects : ∀ o, ¬ but o → h.objects.isLive o = true →
    h'.objects.isLive o = true ∧ (h'.object o).properties = (h.object o).properties

namespace Heap.SparesBut

variable {but : ObjectRef → Prop} {h h' h'' : Heap}

theorem refl (but : ObjectRef → Prop) (h : Heap) : h.SparesBut but h :=
  ⟨rfl, fun _ _ live => ⟨live, rfl⟩⟩

theorem trans (first : h.SparesBut but h') (second : h'.SparesBut but h'') : h.SparesBut but h'' := by
  refine ⟨second.runtimes.trans first.runtimes, fun o spared live => ?_⟩
  obtain ⟨there, same⟩ := first.objects o spared live
  obtain ⟨there', same'⟩ := second.objects o spared there
  exact ⟨there', same'.trans same⟩

theorem of_untouched (untouched : h.Untouched h') (runtimes : h'.runtimes = h.runtimes) :
    h.SparesBut but h' :=
  ⟨runtimes, fun o _ => untouched o⟩

theorem untouched (spares : h.SparesBut (fun _ => False) h') : h.Untouched h' :=
  fun o => spares.objects o id

end Heap.SparesBut

/-- The action ends without an error, and spares what there was but possibly these objects. -/
def Action.Succeeds {σ α : Type} (but : ObjectRef → Prop) (x : Action σ α) (w : World σ) : Prop :=
  ∃ a w', x w = some (.ok a, w') ∧ w.heap.SparesBut but w'.heap

namespace Action

variable {σ α β : Type} {but : ObjectRef → Prop} {w w' : World σ}

theorem succeeds_pure (a : α) : (pure a : Action σ α).Succeeds but w := ⟨a, w, rfl, .refl but _⟩

theorem succeeds_bind {x : Action σ α} {f : α → Action σ β} {a : α}
    (first : x w = some (.ok a, w')) (spares : w.heap.SparesBut but w'.heap)
    (rest : (f a).Succeeds but w') : (x >>= f).Succeeds but w := by
  obtain ⟨b, w'', finish, spares'⟩ := rest
  exact ⟨b, w'', (bind_of_ok first).trans finish, spares.trans spares'⟩

theorem succeeds_heap {f : Heap → Action σ β} (rest : (f w.heap).Succeeds but w) :
    (heap >>= f).Succeeds but w := rest

theorem succeeds_update {u : Update α} (spares : w.heap.SparesBut but (u w.heap).2) :
    (update u : Action σ α).Succeeds but w :=
  ⟨_, _, rfl, spares⟩

end Action

/-- Is the object neither a descriptor object nor the prototype of a metadata class? -/
def Heap.IsPlain (h : Heap) (o : ObjectRef) : Prop :=
  ¬ h.IsDescriptorObject o ∧ ¬ h.IsMetadataPrototype o

/-- Does a watch permit that anything is asked for and all plain objects are written? -/
structure Watch.PermitsPlain (watch : Watch) : Prop where
  write : ∀ h o, h.IsPlain o → watch.mayWrite h o = true
  ask : ∀ h q, watch.mayAsk h q = true

variable {σ : Type}

section Constructor

variable {s : Setting σ} (permits : s.watch.PermitsPlain) {w : World σ} {o : ObjectRef}
include permits

/-- A plain object can be written, and stays plain then. -/
theorem Setting.set_bind_succeeds {α : Type} {name : String} {value : Value}
    {rest : Bool → Action σ α} (plain : w.heap.IsPlain o)
    (more : ∀ done (w' : World σ), w'.heap.IsPlain o → (rest done).Succeeds (· = o) w') :
    (s.set o name value >>= rest).Succeeds (· = o) w := by
  have done : s.set o name value w = some (.ok (Update.set o name value w.heap).1,
      { w with heap := (Update.set o name value w.heap).2 }) := by
    unfold Setting.set Setting.write
    rw [permits.write _ o plain, if_neg (by simp)]
  have spares : w.heap.SparesBut (· = o) (Update.set o name value w.heap).2 := by
    refine ⟨rfl, fun p other live => ⟨Event.isLive_object live (.set o name value), ?_⟩⟩
    exact Event.properties_of_unwritten (e := .set o name value) live
      fun same => other (Option.some.inj same).symm
  exact Action.succeeds_bind done spares (more _ _ plain)

theorem Setting.descriptorNew_succeeds (plain : w.heap.IsPlain o) (args : List Value) :
    (s.descriptorNew (.object o) args).Succeeds (· = o) w := by
  refine Action.succeeds_bind (a := o) rfl (.refl _ _) ?_
  refine set_bind_succeeds permits plain fun _ _ plain => ?_
  refine set_bind_succeeds permits plain fun _ _ plain => ?_
  refine set_bind_succeeds permits plain fun _ _ plain => ?_
  exact set_bind_succeeds permits plain fun _ _ _ => Action.succeeds_pure _

end Constructor

section Describing

variable {watch : Watch} (permits : watch.PermitsPlain) (spares : watch.SparesMetadata)
  {w : World σ} {rt : RuntimeRef} {m : ClassRef}
include permits spares

theorem construct_metadata_succeeds (reached : w.heap.Reached watch)
    (set : (w.heap.runtime rt).metadataClass = some m) (a b c d : Value) (n : Nat) :
    ((Setting.within watch (n + 1)).construct rt m [a, b, c, d, .integer 0]).Succeeds
      (fun _ => False) w := by
  have closed := reached.closed
  have live := Heap.isLive_of_metadataClass set
  have there := (closed.klass ((closed.runtime live).metadataClass m set)).prototype
  obtain ⟨f, function, own, code⟩ :=
    (reached.equipped spares).furnished rt m live set _ List.mem_cons_self
  have variant : w.heap.variant rt (.integer 0) =
      (w.heap.runtime rt).options.constructorPrefix ++ "0" := rfl
  -- the new object is neither kind of thing that is spared
  let made : Event := .object (some (w.heap.klass m).prototype) []
  have allowed : made.Allowed watch w.heap := ⟨by rintro p ⟨⟩; exact there, rfl⟩
  have plain := (Event.sameDescribed (e := made) id w.heap).spares closed (Event.extends allowed)
    (o := w.heap.objects.fresh) (by simp)
  let started : World σ :=
    { w with heap := (Update.newObject (some (w.heap.klass m).prototype) w.heap).2 }
  obtain ⟨v, w', filled, left⟩ := Setting.descriptorNew_succeeds (s := Setting.within watch n)
    (w := started) permits plain [a, b, c, d]
  have called : (Setting.within watch (n + 1)).call f rt (.object w.heap.objects.fresh) [a, b, c, d]
      started = some (.ok v, w') :=
    (call_builtin (w := started) code rt _ _).trans filled
  refine ⟨w.heap.objects.fresh, w', ?_, left.runtimes, fun o _ live => ?_⟩
  · rw [Setting.construct_apply rfl (variant ▸ Heap.get_of_getOwn own)]
    exact Action.bind_of_ok called
  · obtain ⟨older, same⟩ := Event.untouched (e := made) rfl w.heap o live
    obtain ⟨there, same'⟩ := left.objects o (Arena.fresh_ne_of_isLive live) older
    exact ⟨there, same'.trans same⟩

omit permits spares in
theorem metadataClass_apply (set : (w.heap.runtime rt).metadataClass = some m) :
    (Action.metadataClass rt : Action σ ClassRef) w = some (.ok m, w) := by
  unfold Action.metadataClass
  rw [Action.heap_bind_apply, set]
  rfl

theorem makeDescriptor_succeeds (reached : w.heap.Reached watch)
    (set : (w.heap.runtime rt).metadataClass = some m) (c : ClassRef)
    (superclass : Option DescriptorRef) (n : Nat) :
    ((Setting.within watch (n + 1)).makeDescriptor rt c superclass).Succeeds (fun _ => False) w := by
  refine Action.succeeds_bind (metadataClass_apply set) (.refl _ _) (Action.succeeds_heap ?_)
  let named : Event := .string (Utf16.encode (w.heap.klass c).name)
  have passage : Passage watch w.heap (named.apply w.heap) := .of_event trivial id
  have set' := (passage.extended.runtime (Heap.isLive_of_metadataClass set)).metadataClass m set
  have texts : w.heap.SparesBut (fun _ => False) (named.apply w.heap) :=
    .of_untouched (Event.untouched rfl w.heap) rfl
  refine Action.succeeds_bind rfl texts (Action.succeeds_heap ?_)
  obtain ⟨o, w', made, left⟩ := construct_metadata_succeeds permits spares
    (w := { w with heap := named.apply w.heap }) (passage.reached reached) set'
    (.string w.heap.strings.fresh) (.object (w.heap.klass c).prototype)
    (.object (w.heap.klass c).annotations) ((named.apply w.heap).spineValue superclass) n
  refine Action.succeeds_bind made left (Action.succeeds_heap ?_)
  cases (w'.heap.klass c).descriptor with
  | some d => exact Action.succeeds_pure d
  | none =>
    exact Action.succeeds_update (.of_untouched (Event.untouched (e := .describe c _) rfl w'.heap) rfl)

/-- Describing goes up to the first superclass that is described, and from there down again. -/
theorem describeAlong_succeeds (reached : w.heap.Reached watch)
    (set : (w.heap.runtime rt).metadataClass = some m) {c : ClassRef} {others : List ClassRef}
    (live : w.heap.classes.isLive c = true) (above : w.heap.ancestry c = c :: others) (n : Nat) :
    ((Setting.within watch (n + 1)).describeAlong rt c others).Succeeds (fun _ => False) w := by
  induction others generalizing c with
  | nil =>
    refine Action.succeeds_heap ?_
    cases (w.heap.klass c).descriptor with
    | some d => exact Action.succeeds_pure d
    | none => exact makeDescriptor_succeeds permits spares reached set c none n
  | cons superclass rest ih =>
    refine Action.succeeds_heap ?_
    cases (w.heap.klass c).descriptor with
    | some d => exact Action.succeeds_pure d
    | none =>
      obtain ⟨link, above'⟩ := reached.closed.ancestry_cons above
      obtain ⟨e, w', parent, left⟩ := ih (reached.closed.superclass_older link).2 above'
      have kept := (within_lawful watch (n + 1)).describeAlong reached
        (Heap.isLive_of_metadataClass set) (reached.closed.superclass_older link).2 above' _ _ parent
      have set' := (kept.leads.extended.runtime (Heap.isLive_of_metadataClass set)).metadataClass m set
      exact Action.succeeds_bind parent left
        (makeDescriptor_succeeds permits spares kept.holds set' c (some e) n)

theorem descriptorOf_succeeds (reached : w.heap.Reached watch)
    (set : (w.heap.runtime rt).metadataClass = some m) {c : ClassRef}
    (live : w.heap.classes.isLive c = true) (n : Nat) :
    ((Setting.within watch (n + 1)).descriptorOf rt c).Succeeds (fun _ => False) w := by
  refine Action.succeeds_heap (describeAlong_succeeds permits spares reached set live ?_ n)
  rw [Heap.ancestry]
  rfl

/-- What a request for the descriptor of a class leaves. -/
structure DescribedIn (watch : Watch) (w : World σ) (c : ClassRef) (d : DescriptorRef)
    (w' : World σ) : Prop where
  settled : w'.heap.Settled watch
  extended : w.heap.Extends w'.heap
  runtimes : w'.heap.runtimes = w.heap.runtimes
  untouched : w.heap.Untouched w'.heap
  descriptor : (w'.heap.klass c).descriptor = some d

/-- Under no watch at all a request for a descriptor ends likewise. -/
theorem perform_descriptorOf_succeeds (settled : w.heap.Settled watch)
    (runtime : w.heap.runtimes.isLive rt = true) {c : ClassRef}
    (live : w.heap.classes.isLive c = true) (n : Nat) :
    ∃ d w', (Setting.within {} (n + 1)).perform (.descriptorOf rt c) w = some (.ok d, w') ∧
      DescribedIn watch w c d w' := by
  obtain ⟨_, m, set, _⟩ := (settled.built rt runtime).metadata
  obtain ⟨d, w', run, kept⟩ := descriptorOf_succeeds permits spares settled.reached set live n
  have performed : (Setting.within watch (n + 1)).perform (.descriptorOf rt c) w =
      some (.ok d, w') := by
    refine Eq.trans (if_pos ?_) run
    rw [Request.isLive, runtime, live]
    exact permits.ask _ _
  have lawful : (Setting.within (σ := σ) watch (n + 1)).Lawful fun w => w.heap.Settled watch :=
    within_settled (n + 1)
  have after := lawful.perform settled _ _ _ performed
  exact ⟨d, w', Setting.perform_below watch.le_default (Nat.le_refl _) _ w _ performed, after.holds,
    after.leads.extended, kept.runtimes, kept.untouched, lawful.perform_meets settled performed d rfl⟩

end Describing

end ProtoClass
