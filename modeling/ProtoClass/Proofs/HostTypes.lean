import ProtoClass.Proofs.Installing
import ProtoClass.Proofs.Links
import ProtoClass.Proofs.Surfaces
import ProtoClass.Proofs.Widening

set_option autoImplicit false

/- A host type comes first and stays: what stands under a name of a runtime is what was registered there
first, while of the classes that are registered under a name the last one counts. The root is a host type
of its runtime from the start, with the objects of the root class; every other one has two objects of its
own that delegate to the root prototype. Whoever asks for the name, earlier or later, gets these two
objects, so members that are installed on them are seen by all. -/
namespace ProtoClass

namespace Heap

variable {h : Heap} {rt : RuntimeRef} {name : String} {host : HostType}

theorem isLive_of_hostNamed (hosted : h.hostNamed rt name = some host) :
    h.runtimes.isLive rt = true := by
  by_contra dead
  rw [hostNamed, runtime, Arena.get_of_not_isLive dead] at hosted
  cases hosted

theorem hostNamed_of_dead (dead : ¬ h.runtimes.isLive rt = true) : h.hostNamed rt name = none := by
  rw [hostNamed, runtime, Arena.get_of_not_isLive dead]
  rfl

/-- The host type that a registration makes when there is none under the name. -/
def newHost (h : Heap) (name : String) (create : Option FunctionRef) : HostType :=
  { name, constructor := h.objects.fresh, prototype := ⟨h.objects.size + 1⟩, create }

end Heap

/-- The host type that an event offers under a name of a runtime. -/
def Event.hosted? (h : Heap) (rt : RuntimeRef) (name : String) : Event → Option HostType
  | host s other create => if s = rt ∧ other = name then some (h.newHost name create) else none
  | openRuntime options =>
    if h.runtimes.fresh = rt ∧ options.rootName = name then
      some { name, constructor := ⟨h.objects.size + 1⟩, prototype := h.objects.fresh, create := none }
    else none
  | _ => none

/-- The host type that events offer first under a name of a runtime, from a heap on. -/
def Heap.firstHosted (h : Heap) (rt : RuntimeRef) (name : String) : List Event → Option HostType
  | [] => none
  | e :: es => (e.hosted? h rt name).or ((e.apply h).firstHosted rt name es)

/-- Under a name stands the host type that stood there, or else the one that the event offers. -/
theorem Event.hostNamed_apply {watch : Watch} {h : Heap} {e : Event} (allowed : e.Allowed watch h)
    (rt : RuntimeRef) (name : String) :
    (e.apply h).hostNamed rt name = (h.hostNamed rt name).or (e.hosted? h rt name) := by
  cases e with
  | host s other create =>
    rw [apply, Update.registerHost_apply, hosted?]
    by_cases here : s = rt ∧ other = name
    · obtain ⟨rfl, rfl⟩ := here
      rw [if_pos ⟨rfl, rfl⟩]
      cases found : h.hostNamed s other with
      | some host => exact found
      | none =>
        rw [Heap.hostNamed, Heap.runtime, Arena.get_modify allowed.1, if_pos rfl, ← Heap.runtime,
          List.lookup_append, ← Heap.hostNamed, found]
        simp [Heap.newHost]
    · rw [if_neg here, Option.or_none]
      cases h.hostNamed s other with
      | some host => rfl
      | none =>
        rw [Heap.hostNamed, Heap.runtime, Arena.get_modify allowed.1]
        by_cases same : rt = s
        · subst same
          have apart : (name == other) = false :=
            beq_eq_false_iff_ne.2 fun eq => here ⟨rfl, eq.symm⟩
          rw [if_pos rfl, ← Heap.runtime, List.lookup_append, List.lookup_cons, apart,
            Heap.hostNamed]
          exact Option.or_none
        · rw [if_neg same]
          rfl
  | openRuntime options =>
    rw [apply, Update.openRuntime_apply, hosted?, Heap.hostNamed, Heap.runtime, Arena.get_add]
    by_cases new : rt = h.runtimes.fresh
    · subst new
      rw [if_pos rfl, Heap.hostNamed_of_dead (by simp)]
      by_cases same : options.rootName = name
      · simp [same]
      · simp [same, Ne.symm same]
    · rw [if_neg new, if_neg fun both => new both.1.symm, Option.or_none]
      rfl
  | closeRuntime s m =>
    have same : ((closeRuntime s m).apply h).hostNamed rt name = h.hostNamed rt name :=
      Arena.get_modify_same h.runtimes s rt _ (fun cell => cell.hosts.lookup name) fun _ => rfl
    exact same.trans Option.or_none.symm
  | _ =>
    rw [Heap.hostNamed, Heap.runtime, (frame _ h).runtimes (by simp [footprint])]
    exact Option.or_none.symm

/-- Under a name stands the host type that stood there, or else the one that came first. -/
theorem Trace.hostNamed {watch : Watch} {h h' : Heap} {es : List Event} (trace : Trace watch h es h')
    (rt : RuntimeRef) (name : String) :
    h'.hostNamed rt name = (h.hostNamed rt name).or (h.firstHosted rt name es) := by
  induction trace with
  | nil => exact Option.or_none.symm
  | cons allowed rest ih =>
    rw [ih, Event.hostNamed_apply allowed, Heap.firstHosted, Option.or_assoc]

/-- A host type has an object for static members and one for the members of instances. -/
inductive HostPart where
  | constructor
  | prototype
  deriving DecidableEq

namespace HostType

def part (host : HostType) : HostPart → ObjectRef
  | .constructor => host.constructor
  | .prototype => host.prototype

variable {host : HostType}

theorem part_injective (apart : host.constructor ≠ host.prototype) {p q : HostPart}
    (same : host.part p = host.part q) : p = q := by
  cases p <;> cases q
  · rfl
  · exact absurd same apart
  · exact absurd same.symm apart
  · rfl

theorem Closed.part {h : Heap} (closed : host.Closed h) (p : HostPart) :
    h.objects.isLive (host.part p) = true := by
  cases p with
  | constructor => exact closed.constructor
  | prototype => exact closed.prototype

end HostType

/-- The two objects that an event offers are new, and not the same. -/
theorem Event.parts_of_hosted {h : Heap} {e : Event} {rt : RuntimeRef} {name : String}
    {host : HostType} (offered : e.hosted? h rt name = some host) :
    host.constructor ≠ host.prototype ∧ ∀ p, ¬ h.objects.isLive (host.part p) = true := by
  have dead : ∀ i, h.objects.size ≤ i → ¬ h.objects.isLive ⟨i⟩ = true := fun i older live =>
    absurd ((Arena.isLive_iff _ _).1 live) (Nat.not_lt.2 older)
  have new := dead h.objects.size (Nat.le_refl _)
  have next := dead (h.objects.size + 1) (Nat.le_succ _)
  have apart : h.objects.fresh ≠ ⟨h.objects.size + 1⟩ := by
    simp [Arena.fresh]
  cases e with
  | host s other create =>
    rw [hosted?] at offered
    split at offered
    · cases offered
      refine ⟨apart, fun p => ?_⟩
      cases p with
      | constructor => exact new
      | prototype => exact next
    · cases offered
  | openRuntime options =>
    rw [hosted?] at offered
    split at offered
    · cases offered
      refine ⟨apart.symm, fun p => ?_⟩
      cases p with
      | constructor => exact next
      | prototype => exact new
    · cases offered
  | _ => cases offered

/-- An event offers one host type only. -/
theorem Event.hosted_single {h : Heap} {e : Event} {rt rt' : RuntimeRef} {name name' : String}
    {host host' : HostType} (offered : e.hosted? h rt name = some host)
    (offered' : e.hosted? h rt' name' = some host') : rt = rt' ∧ name = name' ∧ host = host' := by
  cases e with
  | host | openRuntime =>
    rw [hosted?] at offered offered'
    split at offered
    · next here =>
      split at offered'
      · next here' =>
        obtain ⟨rfl, rfl⟩ := here
        obtain ⟨rfl, rfl⟩ := here'
        exact ⟨rfl, rfl, Option.some.inj (offered.symm.trans offered')⟩
      · cases offered'
    · cases offered
  | _ => cases offered

namespace Heap

/-- Does an object belong to a class? -/
def OfClass (h : Heap) (o : ObjectRef) : Prop :=
  ∃ c, h.classes.isLive c = true ∧
    o ∈ [(h.klass c).prototype, (h.klass c).statics, (h.klass c).annotations]

theorem Closed.ofClass_live {h : Heap} (closed : h.Closed) {o : ObjectRef} (of : h.OfClass o) :
    h.objects.isLive o = true := by
  obtain ⟨c, live, member⟩ := of
  have klass := closed.klass live
  simp only [List.mem_cons, List.not_mem_nil, or_false] at member
  rcases member with rfl | rfl | rfl
  · exact klass.prototype
  · exact klass.statics
  · exact klass.annotations

theorem Extends.ofClass {h h' : Heap} (extended : h.Extends h') {o : ObjectRef} {c : ClassRef}
    (live : h.classes.isLive c = true)
    (member : o ∈ [(h'.klass c).prototype, (h'.klass c).statics, (h'.klass c).annotations]) :
    h.OfClass o := by
  have same := extended.klass live
  rw [same.prototype, same.statics, same.annotations] at member
  exact ⟨c, live, member⟩

/-- The root class of a runtime, as a host type. -/
def rootHost (h : Heap) (rt : RuntimeRef) : HostType :=
  { name := (h.runtime rt).options.rootName, constructor := (h.klass (h.runtime rt).root).statics,
    prototype := h.rootPrototype rt, create := none }

theorem Extends.rootHost {h h' : Heap} (extended : h.Extends h') (closed : h.Closed) {rt : RuntimeRef}
    (live : h.runtimes.isLive rt = true) : h'.rootHost rt = h.rootHost rt := by
  have runtime := extended.runtime live
  rw [Heap.rootHost, Heap.rootHost, runtime.options, runtime.root,
    (extended.klass (closed.root_live live)).statics, extended.rootPrototype closed live]

end Heap

/-- No old object becomes part of a class. -/
theorem Event.ofClass_apply {watch : Watch} {h : Heap} {e : Event} (allowed : e.Allowed watch h)
    {o : ObjectRef} (live : h.objects.isLive o = true) (of : (e.apply h).OfClass o) : h.OfClass o := by
  obtain ⟨c, there, member⟩ := of
  have extended := Event.extends allowed
  have young : o ∉ ([h.objects.fresh, ⟨h.objects.size + 1⟩, ⟨h.objects.size + 2⟩] : List ObjectRef) := by
    rw [Arena.isLive_iff] at live
    intro among
    simp only [List.mem_cons, List.not_mem_nil, or_false] at among
    rcases among with rfl | rfl | rfl <;> simp only [Arena.fresh] at live <;> omega
  by_cases adds : e.AddsClass
  · cases e with
    | klass rt d s =>
      rcases Update.isLive_buildClass there with old | rfl
      · exact extended.ofClass old member
      · rw [apply, Update.buildClass_class] at member
        exact absurd member young
    | openRuntime options =>
      rcases Update.isLive_openRuntime there with old | rfl
      · exact extended.ofClass old member
      · rw [apply, Update.openRuntime_class] at member
        exact absurd member young
    | _ => cases adds
  · exact extended.ofClass ((Event.sameClasses allowed adds).classes c there) member

namespace Heap

/-- Is this what stands under a name of a runtime: the root class under the name of the root, and
under every other name two objects that belong to no class and delegate to the root prototype? -/
structure FitsHost (h : Heap) (rt : RuntimeRef) (name : String) (host : HostType) : Prop where
  named : host.name = name
  root : name = (h.runtime rt).options.rootName → host = h.rootHost rt
  delegates : name ≠ (h.runtime rt).options.rootName → ∀ p,
    (h.object (host.part p)).prototype = some (h.rootPrototype rt)
  own : name ≠ (h.runtime rt).options.rootName → ∀ p, ¬ h.OfClass (host.part p)

/-- The host types of all runtimes, none of which shares an object with another one. -/
structure Hosting (h : Heap) : Prop where
  root : ∀ rt, h.runtimes.isLive rt = true →
    h.hostNamed rt (h.runtime rt).options.rootName = some (h.rootHost rt)
  fits : ∀ rt name host, h.hostNamed rt name = some host → h.FitsHost rt name host
  apart : ∀ rt rt' name name' host host' p p', h.hostNamed rt name = some host →
    h.hostNamed rt' name' = some host' → host.part p = host'.part p' →
    rt = rt' ∧ name = name' ∧ p = p'

theorem hosting_empty : Hosting {} := by
  have unhosted : ∀ {rt name host}, ({} : Heap).hostNamed rt name ≠ some host := fun hosted =>
    Nat.not_lt_zero _ ((Arena.isLive_iff _ _).1 (isLive_of_hostNamed hosted))
  refine ⟨fun rt live => ?_, fun _ _ _ hosted => absurd hosted unhosted,
    fun _ _ _ _ _ _ _ _ hosted => absurd hosted unhosted⟩
  exact absurd ((Arena.isLive_iff _ _).1 live) (Nat.not_lt_zero _)

end Heap

namespace Event

variable {watch : Watch} {h : Heap} {e : Event} (closed : h.Closed) (allowed : e.Allowed watch h)
  {rt : RuntimeRef} {name : String} {host : HostType}
include closed allowed

/-- An event leaves the host types what they are. -/
theorem fitsHost_kept (hosted : h.hostNamed rt name = some host) (fits : h.FitsHost rt name host) :
    (e.apply h).FitsHost rt name host := by
  have extended := Event.extends allowed
  have live := Heap.isLive_of_hostNamed hosted
  have part := (closed.host_closed live hosted).part
  have options := (extended.runtime live).options
  refine ⟨fits.named, fun same => ?_, fun other p => ?_, fun other p of => ?_⟩
  · rw [options] at same
    rw [fits.root same, extended.rootHost closed live]
  · rw [options] at other
    rw [(extended.object (part p)).prototype, extended.rootPrototype closed live,
      fits.delegates other p]
  · rw [options] at other
    exact fits.own other p (Event.ofClass_apply allowed (part p) of)

/-- A host type that an event offers is one. -/
theorem fitsHost_of_hosted (hosting : h.Hosting) (absent : h.hostNamed rt name = none)
    (offered : e.hosted? h rt name = some host) : (e.apply h).FitsHost rt name host := by
  have extended := Event.extends allowed
  cases e with
  | host s other create =>
    rw [hosted?] at offered
    split at offered
    · next here =>
      obtain ⟨rfl, rfl⟩ := here
      cases offered
      have live : h.runtimes.isLive s = true := allowed.1
      have other_root : other ≠ ((apply h (.host s other create)).runtime s).options.rootName := by
        rw [(extended.runtime live).options]
        rintro rfl
        cases absent.symm.trans (hosting.root s live)
      have objects : (apply h (.host s other create)).objects =
          (h.objects.add { prototype := some (h.rootPrototype s) }).add
            { prototype := some (h.rootPrototype s) } := by
        rw [apply, Update.registerHost_apply, absent]
      refine ⟨rfl, fun same => absurd same other_root, fun _ p => ?_, fun _ p of => ?_⟩
      · rw [extended.rootPrototype closed live, Heap.object, objects, Arena.get_add, Arena.get_add]
        cases p <;> simp [HostType.part, Heap.newHost, Arena.fresh]
      · -- the classes are the old ones, whose objects are old
        obtain ⟨c, there, member⟩ := of
        have old : h.classes.isLive c = true :=
          (Event.sameClasses (e := .host s other create) allowed id).classes c there
        have offered : hosted? h s other (.host s other create) = some (h.newHost other create) :=
          if_pos ⟨rfl, rfl⟩
        exact (parts_of_hosted offered).2 p (closed.ofClass_live (extended.ofClass old member))
    · cases offered
  | openRuntime options =>
    rw [hosted?] at offered
    split at offered
    · next here =>
      obtain ⟨rfl, rfl⟩ := here
      cases offered
      have runtime := Update.openRuntime_runtime options h
      have klass := Update.openRuntime_class options h
      have named : options.rootName =
          ((apply h (.openRuntime options)).runtime h.runtimes.fresh).options.rootName := by
        rw [apply, runtime]
      refine ⟨rfl, fun _ => ?_, fun other => absurd named other, fun other => absurd named other⟩
      rw [apply, Heap.rootHost, Heap.rootPrototype, runtime, klass]
    · cases offered
  | _ => cases offered

/-- An event keeps the host types in order. -/
theorem hosting (hosting : h.Hosting) : (e.apply h).Hosting := by
  have extended := Event.extends allowed
  -- a host type of the later heap is an old one with old objects, or is offered with new ones
  have cases_host : ∀ rt name host, (e.apply h).hostNamed rt name = some host →
      h.hostNamed rt name = some host ∧ (∀ p, h.objects.isLive (host.part p) = true) ∨
        h.hostNamed rt name = none ∧ e.hosted? h rt name = some host := by
    intro rt name host hosted
    rw [hostNamed_apply allowed] at hosted
    cases found : h.hostNamed rt name with
    | some old =>
      rw [found] at hosted
      cases hosted
      exact Or.inl ⟨rfl, (closed.host_closed (Heap.isLive_of_hostNamed found) found).part⟩
    | none =>
      rw [found] at hosted
      exact Or.inr ⟨rfl, hosted⟩
  constructor
  case root =>
    intro rt live
    by_cases old : h.runtimes.isLive rt = true
    · rw [(extended.runtime old).options, extended.rootHost closed old]
      exact extended.hostNamed old (hosting.root rt old)
    · cases e with
      | openRuntime options =>
        obtain rfl := (Update.isLive_runtime_openRuntime live).resolve_left old
        have runtime := Update.openRuntime_runtime options h
        have klass := Update.openRuntime_class options h
        rw [hostNamed_apply allowed, Heap.hostNamed_of_dead old, apply, Heap.rootHost,
          Heap.rootPrototype, runtime, klass, hosted?, if_pos ⟨rfl, rfl⟩]
        rfl
      | _ => exact absurd (isLive_runtime (by rintro options ⟨⟩) live) old
  case fits =>
    intro rt name host hosted
    rcases cases_host rt name host hosted with ⟨old, _⟩ | ⟨absent, offered⟩
    · exact fitsHost_kept closed allowed old (hosting.fits rt name host old)
    · exact fitsHost_of_hosted closed allowed hosting absent offered
  case apart =>
    intro rt rt' name name' host host' p p' hosted hosted' same
    rcases cases_host rt name host hosted with ⟨old, live⟩ | ⟨_, offered⟩
    · rcases cases_host rt' name' host' hosted' with ⟨old', _⟩ | ⟨_, offered'⟩
      · exact hosting.apart rt rt' name name' host host' p p' old old' same
      · exact absurd (same ▸ live p) ((parts_of_hosted offered').2 p')
    · rcases cases_host rt' name' host' hosted' with ⟨_, live'⟩ | ⟨_, offered'⟩
      · exact absurd (same ▸ live' p') ((parts_of_hosted offered).2 p)
      · obtain ⟨rfl, rfl, rfl⟩ := hosted_single offered offered'
        exact ⟨rfl, rfl, HostType.part_injective (parts_of_hosted offered).1 same⟩

end Event

theorem Heap.Reached.hosting {watch : Watch} {h : Heap} (reached : h.Reached watch) : h.Hosting := by
  have both : h.Closed ∧ h.Hosting :=
    reached.invariant (P := fun h => h.Closed ∧ h.Hosting) ⟨Heap.closed_empty, Heap.hosting_empty⟩
      fun _ _ before allowed =>
        ⟨Event.closed before.1 allowed, Event.hosting before.1 allowed before.2⟩
  exact both.2

/-- Asks to install members on an object of a host type; says whether there is such a type. -/
def Setting.installPart {σ : Type} (s : Setting σ) (p : HostPart) (rt : RuntimeRef) (name : String)
    (entries : List (String × Value)) : Action σ Bool :=
  match p with
  | .constructor => s.perform (.installStaticOn rt name entries)
  | .prototype => s.perform (.installOn rt name entries)

/-- What the registration of a host type does that is not there yet: it makes two empty objects that
delegate to the root prototype, and no other name or object changes. -/
structure AddsHost (h : Heap) (rt : RuntimeRef) (name : String) (host : HostType) (h' : Heap) :
    Prop where
  hosted : ∀ rt' name', h'.hostNamed rt' name' =
    if rt' = rt ∧ name' = name then some host else h.hostNamed rt' name'
  new : ∀ p, ¬ h.objects.isLive (host.part p) = true
  objects : ∀ p, h'.object (host.part p) = { prototype := some (h.rootPrototype rt) }
  kept : ∀ o, h.objects.isLive o = true → h'.object o = h.object o
  runtimes : ∀ rt', h'.runtime rt' = { h.runtime rt' with hosts := (h'.runtime rt').hosts }
  frame : h.SameOutside [.object, .runtime] h'

/-- What asking to install members on an object of a host type does: what an installation on that
object does. Whoever was given a host type under the name before, or is given one afterwards, sees what
was installed. -/
structure InstallsOnHost {σ : Type} (w : World σ) (s : Setting σ) (rt : RuntimeRef) (name : String)
    (host : HostType) (p : HostPart) (entries : List (String × Value)) (count : Nat) (h' : Heap) :
    Prop where
  plain : s.perform (.install (host.part p) entries) w = some (.ok count, { w with heap := h' })
  alike : s.installPart p rt name entries w = some (.ok true, { w with heap := h' })
  first : FirstWins w.heap (host.part p) entries count h'
  seen : ∀ key value, w.heap.accepts (host.part p) key = true → entries.lookup key = some value →
    ∀ (other : Heap) handle, other.Extends w.heap ∨ h'.Extends other →
      other.hostNamed rt name = some handle → h'.get (handle.part p) key = some value

/-- The host types of a world are those that came first, each with objects of its own. -/
structure FirstHostsStay {σ : Type} (w : World σ) : Prop where
  /-- The root stands under its name, with the objects of the root class; -/
  root : ∀ rt, w.heap.runtimes.isLive rt = true →
    w.heap.hostNamed rt (w.heap.runtime rt).options.rootName = some (w.heap.rootHost rt)
  /-- all others have objects that belong to no class and delegate to the root prototype. -/
  own : ∀ rt name host, w.heap.hostNamed rt name = some host →
    name ≠ (w.heap.runtime rt).options.rootName → host.name = name ∧ ∀ p,
      (w.heap.object (host.part p)).prototype = some (w.heap.rootPrototype rt) ∧
        ¬ w.heap.OfClass (host.part p)
  /-- No object belongs to two host types, or has two parts in one. -/
  apart : ∀ rt rt' name name' host host' p p', w.heap.hostNamed rt name = some host →
    w.heap.hostNamed rt' name' = some host' → host.part p = host'.part p' →
    rt = rt' ∧ name = name' ∧ p = p'
  /-- A registration under a name that is taken gives what is there and changes nothing; -/
  again : ∀ rt name host create, w.heap.hostNamed rt name = some host →
    (∀ f, create = some f → w.heap.functions.isLive f = true) → ∀ s : Setting σ, s.watch = {} →
    s.perform (.registerHost rt name create) w = some (.ok host, w)
  /-- under any other name it adds a host type with the given function. -/
  added : ∀ rt name create, w.heap.runtimes.isLive rt = true → w.heap.hostNamed rt name = none →
    (∀ f, create = some f → w.heap.functions.isLive f = true) → ∀ s : Setting σ, s.watch = {} →
    ∃ host h', s.perform (.registerHost rt name create) w = some (.ok host, { w with heap := h' }) ∧
      host.create = create ∧ AddsHost w.heap rt name host h'
  /-- Nothing is installed under a name that is not there. -/
  absent : ∀ rt name p entries, w.heap.runtimes.isLive rt = true →
    w.heap.hasEntries entries = true → w.heap.hostNamed rt name = none →
    ∀ s : Setting σ, s.watch = {} → s.installPart p rt name entries w = some (.ok false, w)
  installed : ∀ rt name host p entries, w.heap.hostNamed rt name = some host →
    w.heap.hasEntries entries = true → ∀ s : Setting σ, s.watch = {} →
    ∃ count h', InstallsOnHost w s rt name host p entries count h'

section Requests

variable {σ : Type} {w : World σ} {s : Setting σ} (free : s.watch = {}) {rt : RuntimeRef}
  {name : String} {host : HostType} {entries : List (String × Value)}

/-- A host type that is given out under a name at any time is the one that stands there. -/
theorem Heap.Extends.hostNamed_eq {h h' : Heap} (extended : h.Extends h') {host' : HostType}
    (hosted : h.hostNamed rt name = some host) (hosted' : h'.hostNamed rt name = some host') :
    host' = host :=
  Option.some.inj
    (hosted'.symm.trans (extended.hostNamed (Heap.isLive_of_hostNamed hosted) hosted))

theorem registerHost_live (name : String) {create : Option FunctionRef}
    (live : w.heap.runtimes.isLive rt = true)
    (made : ∀ f, create = some f → w.heap.functions.isLive f = true) :
    Request.isLive w.heap (.registerHost rt name create) = true := by
  rw [Request.isLive, live, Bool.true_and, Option.all_eq_true]
  exact made

/-- The heap that a registration leaves under a new name. -/
theorem Update.registerHost_adds {h : Heap} (live : h.runtimes.isLive rt = true)
    (absent : h.hostNamed rt name = none) {create : Option FunctionRef}
    (made : ∀ f, create = some f → h.functions.isLive f = true) :
    AddsHost h rt name (h.newHost name create) (registerHost rt name create h).2 := by
  have allowed : Event.Allowed {} h (.host rt name create) := ⟨live, made⟩
  have offered : Event.hosted? h rt name (.host rt name create) = some (h.newHost name create) :=
    if_pos ⟨rfl, rfl⟩
  have new := (Event.parts_of_hosted offered).2
  have heap := congrArg Prod.snd (registerHost_apply rt name create h)
  rw [absent] at heap
  constructor
  case hosted =>
    intro rt' name'
    refine (Event.hostNamed_apply allowed rt' name').trans ?_
    by_cases here : rt' = rt ∧ name' = name
    · obtain ⟨rfl, rfl⟩ := here
      rw [absent, if_pos ⟨rfl, rfl⟩, offered]
      rfl
    · rw [if_neg here, Event.hosted?, if_neg fun both => here ⟨both.1.symm, both.2.symm⟩,
        Option.or_none]
  case new => exact new
  case objects =>
    intro p
    rw [heap, Heap.object, Arena.get_add, Arena.get_add]
    cases p <;> simp [HostType.part, Heap.newHost, Arena.fresh]
  case kept =>
    intro o there
    rw [heap, Heap.object, Arena.get_add_of_isLive (Arena.isLive_add_of_isLive there _),
      Arena.get_add_of_isLive there]
    rfl
  case runtimes =>
    intro rt'
    rw [heap, Heap.runtime, Arena.get_modify live]
    split
    · next same => rw [same]; rfl
    · rfl
  case frame => exact Event.frame (.host rt name create) h

include free

theorem installPart_of_absent (live : w.heap.runtimes.isLive rt = true)
    (there : w.heap.hasEntries entries = true) (absent : w.heap.hostNamed rt name = none)
    (p : HostPart) : s.installPart p rt name entries w = some (.ok false, w) := by
  have asked : (w.heap.runtimes.isLive rt && w.heap.hasEntries entries) = true := by
    rw [live, there]
    rfl
  cases p with
  | constructor =>
    refine (Setting.perform_apply (q := .installStaticOn rt name entries) asked (by rw [free])).trans ?_
    rw [Setting.serve, Setting.installStaticOn, Action.heap_bind_apply, absent]
    rfl
  | prototype =>
    refine (Setting.perform_apply (q := .installOn rt name entries) asked (by rw [free])).trans ?_
    rw [Setting.serve, Setting.installOn, Action.heap_bind_apply, absent]
    rfl

/-- An installation on an object of a host type is one on that object. -/
theorem installPart_of_hosted (there : w.heap.hasEntries entries = true)
    (hosted : w.heap.hostNamed rt name = some host) (p : HostPart) :
    s.installPart p rt name entries w =
      some (.ok true, { w with heap := (Update.install (host.part p) entries w.heap).2 }) := by
  have asked : (w.heap.runtimes.isLive rt && w.heap.hasEntries entries) = true := by
    rw [Heap.isLive_of_hostNamed hosted, there]
    rfl
  cases p with
  | constructor =>
    refine (Setting.perform_apply (q := .installStaticOn rt name entries) asked (by rw [free])).trans ?_
    rw [Setting.serve, Setting.installStaticOn, Action.heap_bind_apply, hosted]
    exact Action.bind_of_ok (Setting.install_of_free free host.constructor)
  | prototype =>
    refine (Setting.perform_apply (q := .installOn rt name entries) asked (by rw [free])).trans ?_
    rw [Setting.serve, Setting.installOn, Action.heap_bind_apply, hosted]
    exact Action.bind_of_ok (Setting.install_of_free free host.prototype)

theorem installsOnHost (closed : w.heap.Closed) (there : w.heap.hasEntries entries = true)
    (hosted : w.heap.hostNamed rt name = some host) (p : HostPart) :
    InstallsOnHost w s rt name host p entries (Update.install (host.part p) entries w.heap).1
      (Update.install (host.part p) entries w.heap).2 := by
  have part := (closed.host_closed (Heap.isLive_of_hostNamed hosted) hosted).part p
  have first := Update.firstWins part entries
  have asked : Request.isLive w.heap (.install (host.part p) entries) = true := by
    rw [Request.isLive, part, there]
    rfl
  refine ⟨?_, installPart_of_hosted free there hosted p, first, ?_⟩
  · exact (Setting.perform_apply asked (by rw [free])).trans (Setting.install_of_free free (host.part p))
  · intro key value accepted listed other handle times taken
    have extended := w.heap.extends_install (host.part p) entries
    have same : handle = host := by
      rcases times with before | after
      · exact (before.hostNamed_eq taken hosted).symm
      · exact (extended.trans after).hostNamed_eq hosted taken
    rw [same]
    apply Heap.get_of_getOwn
    rw [Heap.getOwn, first.installed key value accepted listed]
    rfl

end Requests

theorem Heap.Reached.firstHostsStay {σ : Type} {watch : Watch} {w : World σ}
    (reached : w.heap.Reached watch) : FirstHostsStay w := by
  have closed := reached.closed
  have hosting := reached.hosting
  constructor
  case root => exact hosting.root
  case own =>
    intro rt name host hosted other
    have fits := hosting.fits rt name host hosted
    exact ⟨fits.named, fun p => ⟨fits.delegates other p, fits.own other p⟩⟩
  case apart => exact hosting.apart
  case again =>
    intro rt name host create hosted made s free
    have asked := registerHost_live name (Heap.isLive_of_hostNamed hosted) made
    refine (Setting.perform_apply asked (by rw [free])).trans ?_
    rw [Setting.serve, Action.update, Update.registerHost_apply, hosted]
  case added =>
    intro rt name create live absent made s free
    have asked := registerHost_live name live made
    refine ⟨_, _, (Setting.perform_apply asked (by rw [free])).trans ?_, rfl,
      Update.registerHost_adds live absent made⟩
    rw [Setting.serve, Action.update, Update.registerHost_apply, absent]
    rfl
  case absent =>
    intro rt name p entries live there absent s free
    exact installPart_of_absent free live there absent p
  case installed =>
    intro rt name host p entries hosted there s free
    exact ⟨_, _, installsOnHost free closed there hosted p⟩

/-- Host types come first and stay. At every moment of a run, and wherever else a program can be, each
host type of a runtime is the one that came first under its name, and installations on it are on objects
that all share who ask for the name; and what stands under a name at one moment stands there later. -/
theorem first_hosts_stay {σ : Type} (watch : Watch) (depth : Nat) (p : Program σ) (state : σ)
    (count : Nat) :
    ((∀ m ∈ p.moments watch depth state count, FirstHostsStay m.toWorld) ∧
        ∀ (τ : Type) (w : World τ), Reached watch w → FirstHostsStay w) ∧
      (p.moments watch depth state count).Pairwise fun earlier later =>
        earlier.heap.Extends later.heap ∧
          (∀ rt name host, earlier.heap.hostNamed rt name = some host →
            later.heap.hostNamed rt name = some host) ∧
          ∃ es, Trace watch earlier.heap es later.heap ∧ ∀ rt name, later.heap.hostNamed rt name =
            (earlier.heap.hostNamed rt name).or (earlier.heap.firstHosted rt name es) := by
  refine ⟨everywhere_of_reached (P := fun _ w => FirstHostsStay w)
    (fun _ _ reached => reached.firstHostsStay) watch depth p state count, ?_⟩
  refine (Program.moments_ordered watch depth p state count).imp ?_
  rintro earlier later ⟨es, trace⟩
  refine ⟨trace.extends, fun rt name host hosted => ?_, es, trace, trace.hostNamed⟩
  exact trace.extends.hostNamed (Heap.isLive_of_hostNamed hosted) hosted

/-- Registers a host type where the root is called like that of strings, installs a member on it,
registers the name once more, and defines a class of that name. -/
def rehosting : Program Unit := Script.toProgram do
  let rt ← Script.ask (.newRuntime { rootName := "String" })
  let f ← Script.newFunction "Buffer" fun _ _ _ => Script.toProgram (return .undefined)
  let _ ← Script.ask (.registerHost rt "Buffer" (some f))
  let _ ← Script.ask (.installOn rt "Buffer" [("size", .integer 4)])
  let _ ← Script.ask (.registerHost rt "Buffer" none)
  return .klass (← Script.ask (.defineClass rt { name := "Buffer" }))

/-- In the end the first registration still stands, and a member that is installed then is seen through
the host type that was given out first. -/
theorem rehosting_shares :
    ∃ m ∈ rehosting.moments {} 2 () 20, ∃ host,
      m.heap.hostNamed ⟨0⟩ "String" = some (m.heap.rootHost ⟨0⟩) ∧
      m.heap.hostNamed ⟨0⟩ "Buffer" = some host ∧ host.create = some ⟨16⟩ ∧
      (m.heap.object host.constructor).prototype = some (m.heap.rootPrototype ⟨0⟩) ∧
      (Setting.within {} 0).perform (.registerHost ⟨0⟩ "Buffer" none) m.toWorld =
        some (.ok host, m.toWorld) ∧
      ∃ h', (Setting.within {} 0).perform
          (.installOn ⟨0⟩ "Buffer" [("size", .null), ("kind", .integer 1)]) m.toWorld =
            some (.ok true, { m.toWorld with heap := h' }) ∧
        h'.get host.prototype "kind" = some (.integer 1) := by
  have ends : (rehosting.moments {} 2 () 20).any (fun m =>
      m.heap.runtimes.isLive ⟨0⟩ && decide ((m.heap.runtime ⟨0⟩).options.rootName = "String") &&
      decide ((m.heap.classNamed ⟨0⟩ "Buffer").isSome = true) &&
      (m.heap.hostNamed ⟨0⟩ "Buffer").any fun host =>
        decide (host.create = some ⟨16⟩) && m.heap.accepts host.prototype "kind") = true := by
    decide +kernel
  obtain ⟨m, member, facts⟩ := List.any_eq_true.1 ends
  simp only [Bool.and_eq_true, decide_eq_true_iff, Option.any_eq_true] at facts
  obtain ⟨⟨⟨runtime, rootName⟩, _⟩, host, hosted, create, accepted⟩ := facts
  have stay := (first_hosts_stay {} 2 rehosting () 20).1.1 m member
  have other : "Buffer" ≠ (m.heap.runtime ⟨0⟩).options.rootName := by
    rw [rootName]
    decide
  obtain ⟨_, parts⟩ := stay.own ⟨0⟩ "Buffer" _ hosted other
  obtain ⟨_, h', installs⟩ := stay.installed ⟨0⟩ "Buffer" _ .prototype
    [("size", .null), ("kind", .integer 1)] hosted rfl (Setting.within {} 0) rfl
  refine ⟨m, member, _, rootName ▸ stay.root ⟨0⟩ runtime, hosted, create, (parts .constructor).1,
    stay.again ⟨0⟩ "Buffer" _ none hosted nofun _ rfl, h', installs.alike, ?_⟩
  exact installs.seen "kind" _ accepted rfl m.heap _ (Or.inl (.refl _)) hosted

end ProtoClass
