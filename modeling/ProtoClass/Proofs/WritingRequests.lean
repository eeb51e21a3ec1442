import ProtoClass.Proofs.Bootstrap
import ProtoClass.Proofs.Courses

set_option autoImplicit false

/- Which requests write properties of an object that was there: those that assign, define, delete or
install by name. Serving any other one leaves the objects that were there as they are, but for what
the functions do that it calls. -/
namespace ProtoClass

/-- The objects of the earlier heap are still there, with the same properties. -/
def Heap.Untouched (h h' : Heap) : Prop :=
  ∀ o, h.objects.isLive o = true →
    h'.objects.isLive o = true ∧ (h'.object o).properties = (h.object o).properties

namespace Heap.Untouched

variable {h h' h'' : Heap}

theorem refl (h : Heap) : h.Untouched h := fun _ live => ⟨live, rfl⟩

theorem trans (first : h.Untouched h') (second : h'.Untouched h'') : h.Untouched h'' := by
  intro o live
  obtain ⟨there, same⟩ := first o live
  obtain ⟨there', same'⟩ := second o there
  exact ⟨there', same'.trans same⟩

end Heap.Untouched

/-- What an object has itself under a name is the same, and the object is still there. -/
def Heap.SameOwn (o : ObjectRef) (name : String) (h h' : Heap) : Prop :=
  h.objects.isLive o = true →
    h'.objects.isLive o = true ∧ h'.ownProperty o name = h.ownProperty o name

theorem Heap.SameOwn.trans {o : ObjectRef} {name : String} {h h' h'' : Heap}
    (first : SameOwn o name h h') (second : SameOwn o name h' h'') : SameOwn o name h h'' := by
  intro live
  obtain ⟨there, same⟩ := first live
  obtain ⟨there', same'⟩ := second there
  exact ⟨there', same'.trans same⟩

theorem Heap.Untouched.sameOwn {h h' : Heap} (untouched : h.Untouched h') (o : ObjectRef)
    (name : String) : SameOwn o name h h' := by
  intro live
  obtain ⟨there, same⟩ := untouched o live
  exact ⟨there, congrArg (fun t => t.get? name) same⟩

namespace Event

theorem isLive_object {h : Heap} {o : ObjectRef} (live : h.objects.isLive o = true) (e : Event) :
    (e.apply h).objects.isLive o = true := by
  cases e with
  | object prototype entries =>
    rw [apply, Update.newObjectOf_apply]
    exact Arena.isLive_add_of_isLive live _
  | set p | define p | delete p => exact (h.extends_changeProperties p _).objects.isLive live
  | install p entries | furnish p entries => exact (h.extends_install p entries).objects.isLive live
  | identity k x => exact (h.extends_identityOf k x).objects.isLive live
  | host rt name create => exact (h.extends_registerHost rt name create).objects.isLive live
  | klass rt d s => exact (h.extends_buildClass rt d s).objects.isLive live
  | openRuntime options => exact (h.extends_openRuntime options).objects.isLive live
  | _ => rwa [(frame _ h).objects (by simp [footprint])]

theorem untouched {e : Event} (unwritten : e.written = none) (h : Heap) : h.Untouched (e.apply h) := by
  intro o live
  refine ⟨isLive_object live e, properties_of_unwritten live ?_⟩
  rw [unwritten]
  nofun

end Event

theorem Passage.untouched {h h' : Heap} (passage : Passage .still h h') : h.Untouched h' :=
  fun _ live => ⟨passage.extended.objects.isLive live, passage.still live⟩

theorem Update.untouched_newRuntime {h : Heap} (closed : h.Closed) (options : Options) :
    h.Untouched (newRuntime options h).2 := by
  have built := (buildRuntime_completed .still options closed).passage.untouched
  rw [newRuntime_apply]
  -- what building a runtime amounts to is of no concern here
  generalize buildRuntime options h = outcome at built ⊢
  cases options.validate with
  | error e => exact .refl h
  | ok _ => exact built

/-- The event by which serving a request writes properties of an object that was there. -/
def Request.write? (h : Heap) : Request → Option Event
  | set o name value => some (.set o name value)
  | define o name value flags => some (.define o name value flags)
  | delete o name => some (.delete o name)
  | install o properties => some (.install o properties)
  | installOn rt name properties =>
    (h.hostNamed rt name).map fun host => .install host.prototype properties
  | installStaticOn rt name properties =>
    (h.hostNamed rt name).map fun host => .install host.constructor properties
  | installSocketConnect rt => (h.hostNamed rt socketHost).map fun host =>
      .install host.constructor [("connect", .function h.functions.fresh)]
  | _ => none

namespace Setting

variable {σ : Type} {s : Setting σ} {w w' : World σ}

/-- A write that is permitted has the effect that it should, and nothing else happens. -/
theorem write_inv {α : Type} {o : ObjectRef} {u : Update α} {wrote : α → Bool} {r : Except Error α}
    (run : s.write o u wrote w = some (r, w')) :
    r = .ok (u w.heap).1 ∧ w' = { w with heap := (u w.heap).2 } := by
  unfold write at run
  split at run
  · cases run
  · cases run
    exact ⟨rfl, rfl⟩

/-- An installation on a part of a host type does nothing where there is no such type. -/
theorem install_host_inv {host : Option HostType} {part : HostType → ObjectRef}
    {properties : List (String × Value)} {r : Except Error Bool}
    (run : (match host with
      | some host => s.install (part host) properties >>= fun _ => (pure true : Action σ Bool)
      | none => pure false) w = some (r, w')) :
    w'.heap = host.elim w.heap fun host => (Update.install (part host) properties w.heap).2 := by
  cases host with
  | none =>
    cases run
    rfl
  | some host =>
    rcases Action.bind_inv run with ⟨e, failed, _⟩ | ⟨n, w₁, installed, finished⟩
    · obtain ⟨wrong, _⟩ := write_inv failed
      cases wrong
    · cases finished
      obtain ⟨_, rfl⟩ := write_inv installed
      rfl

/-- Installing members for the instances of a host type is an installation on its prototype. -/
theorem installOn_inv {rt : RuntimeRef} {name : String} {properties : List (String × Value)}
    {r : Except Error Bool} (run : s.installOn rt name properties w = some (r, w')) :
    w'.heap = ((w.heap.hostNamed rt name).elim w.heap fun host =>
      (Update.install host.prototype properties w.heap).2) := by
  rw [installOn, Action.heap_bind_apply] at run
  exact install_host_inv run

/-- Installing static members for a host type is an installation on its constructor object. -/
theorem installStaticOn_inv {rt : RuntimeRef} {name : String} {properties : List (String × Value)}
    {r : Except Error Bool} (run : s.installStaticOn rt name properties w = some (r, w')) :
    w'.heap = ((w.heap.hostNamed rt name).elim w.heap fun host =>
      (Update.install host.constructor properties w.heap).2) := by
  rw [installStaticOn, Action.heap_bind_apply] at run
  exact install_host_inv run

/-- A request that writes does this by its event, unless it makes a function before. -/
theorem perform_writes {q : Request} {r : Except Error q.Answer} (run : s.perform q w = some (r, w'))
    {e : Event} (writes : q.write? w.heap = some e) :
    ∃ h, w.heap.SameOutside [.function] h ∧ w'.heap = e.apply h := by
  obtain ⟨_, _, served⟩ := perform_inv run
  cases q with
  | set o name value | define o name value flags | delete o name =>
    cases writes
    obtain ⟨_, rfl⟩ := write_inv served
    exact ⟨w.heap, .refl _ _, rfl⟩
  | install o properties =>
    cases writes
    have installed : s.write o (Update.install o properties) (· != 0) w = some (r, w') := served
    obtain ⟨_, rfl⟩ := write_inv installed
    exact ⟨w.heap, .refl _ _, rfl⟩
  | installOn rt name properties =>
    obtain ⟨host, hosted, rfl⟩ := Option.map_eq_some_iff.1 writes
    have left := installOn_inv served
    rw [hosted] at left
    exact ⟨w.heap, .refl _ _, left⟩
  | installStaticOn rt name properties =>
    obtain ⟨host, hosted, rfl⟩ := Option.map_eq_some_iff.1 writes
    have left := installStaticOn_inv served
    rw [hosted] at left
    exact ⟨w.heap, .refl _ _, left⟩
  | installSocketConnect rt =>
    obtain ⟨host, hosted, rfl⟩ := Option.map_eq_some_iff.1 writes
    let made : Event := .function "WebSocket.connect" (.builtin .socketConnect)
    have installed : s.installStaticOn rt socketHost [("connect", .function w.heap.functions.fresh)]
        { w with heap := made.apply w.heap } = some (r, w') := served
    have left := installStaticOn_inv installed
    have same : (made.apply w.heap).hostNamed rt socketHost = some host := hosted
    rw [same] at left
    exact ⟨made.apply w.heap, made.frame w.heap, left⟩
  | _ => cases writes

/-- What lasts as long as objects are untouched is kept by a request that does not write, if the calls
keep it that it makes. -/
theorem perform_keeps {q : Request} {r : Except Error q.Answer} (closed : w.heap.Closed)
    (run : s.perform q w = some (r, w')) (writes : q.write? w.heap = none) {R : Heap → Heap → Prop}
    (untouched : ∀ h h' : Heap, h.Untouched h' → R h h')
    (trans : ∀ h₁ h₂ h₃, R h₁ h₂ → R h₂ h₃ → R h₁ h₃)
    (calls : ∀ c ∈ (s.logging.perform q).callsMade w, R c.before.heap c.after.heap) :
    R w.heap w'.heap := by
  obtain ⟨_, _, served⟩ := perform_inv run
  have silent (unwritten : ∀ e, q.Makes e → e.written = none) : R w.heap w'.heap :=
    ((s.perform_course run).keeps (fun h => untouched h h (.refl h)) trans fun h e makes =>
      untouched _ _ (Event.untouched (unwritten e makes) h)).across trans calls
  cases q with
  | set | define | delete | install => cases writes
  | newRuntime options =>
    cases served
    exact untouched _ _ (Update.untouched_newRuntime closed options)
  | installOn rt name properties =>
    have left := installOn_inv served
    rw [Option.map_eq_none_iff.1 writes] at left
    exact untouched _ _ (left ▸ .refl _)
  | installStaticOn rt name properties =>
    have left := installStaticOn_inv served
    rw [Option.map_eq_none_iff.1 writes] at left
    exact untouched _ _ (left ▸ .refl _)
  | installSocketConnect rt =>
    let made : Event := .function "WebSocket.connect" (.builtin .socketConnect)
    have installed : s.installStaticOn rt socketHost [("connect", .function w.heap.functions.fresh)]
        { w with heap := made.apply w.heap } = some (r, w') := served
    have left := installStaticOn_inv installed
    have same : (made.apply w.heap).hostNamed rt socketHost = none := Option.map_eq_none_iff.1 writes
    rw [same] at left
    have function : w.heap.Untouched (made.apply w.heap) := Event.untouched rfl w.heap
    exact untouched _ _ (left ▸ function)
  | descriptorOf | descriptorNamed | getClass | isInstance =>
    exact silent fun e makes => makes.written_eq_none
  | constructHost | call | invoke | hashCode | equals | display =>
    exact silent fun e makes => nomatch makes
  | defineClass | construct | constructNamed =>
    refine silent ?_
    rintro e ⟨_, rfl⟩
    rfl
  | defineFlat =>
    refine silent ?_
    rintro e ⟨_, _, rfl⟩
    rfl
  | newObject | newString | newCounter | newRegistry | identityOf | hashOf | register | registerHost =>
    refine silent ?_
    rintro e rfl
    rfl

end Setting

end ProtoClass
