import ProtoClass.Proofs.FlatForm
import ProtoClass.Proofs.Registering
import ProtoClass.Proofs.Widening

set_option autoImplicit false

/- To everyone who registers classes and looks for them, a registry is a plain list in which each name
stands once, with the class that was registered under it last, in the order in which the names came. Its
map and its list of names stay in agreement whatever is registered. In a run every registry is what
registrations of classes under their own names make of an empty one: those that are asked for and those
of definitions, however these are nested. -/
namespace ProtoClass

namespace Registry

/-- Registers classes one after another, each under a name: all answers, and the registry that is
left. -/
def registerAll (r : Registry) : List (String × ClassRef) → List (Option ClassRef) × Registry
  | [] => ([], r)
  | (name, c) :: calls =>
    let rest := (r.register name c).2.registerAll calls
    ((r.register name c).1 :: rest.1, rest.2)

/-- The registry that registrations leave of an empty one. -/
def after (calls : List (String × ClassRef)) : Registry := (({} : Registry).registerAll calls).2

theorem registerAll_append (r : Registry) (calls later : List (String × ClassRef)) :
    (r.registerAll (calls ++ later)).2 = ((r.registerAll calls).2.registerAll later).2 := by
  induction calls generalizing r with
  | nil => rfl
  | cons call calls ih => exact ih (r.register call.1 call.2).2

/-- Each registration answers with what stood under its name just before. -/
theorem answers_registerAll (r : Registry) (calls : List (String × ClassRef)) :
    (r.registerAll calls).1 =
      calls.mapIdx fun i call => (r.registerAll (calls.take i)).2.get? call.1 := by
  induction calls generalizing r with
  | nil => rfl
  | cons call calls ih =>
    rw [List.mapIdx_cons]
    exact congrArg (r.get? call.1 :: ·) (ih (r.register call.1 call.2).2)

/-- A registry shows to its readers a list in which each name stands once, with its class. -/
structure Shows (r : Registry) (l : List (String × ClassRef)) : Prop where
  names : r.names = l.map Prod.fst
  distinct : (l.map Prod.fst).Nodup
  get? : ∀ name, r.get? name = l.lookup name
  size : r.size = l.length

theorem shows_empty : Shows {} [] where
  names := rfl
  distinct := List.nodup_nil
  get? := get?_empty
  size := rfl

namespace Shows

variable {r : Registry} {l : List (String × ClassRef)} (shows : r.Shows l)
include shows

theorem isSome_get?_iff (name : String) : (r.get? name).isSome = true ↔ name ∈ l.map Prod.fst := by
  rw [shows.get?, List.lookup_isSome_iff, List.mem_map]
  exact exists_congr fun entry => and_congr_right fun _ => by rw [beq_iff_eq, eq_comm]

/-- A registration puts the class in the place of the one with the same name, or at the end. -/
theorem register (name : String) (c : ClassRef) : (r.register name c).2.Shows (Named.put name c l) where
  names := by
    rw [names_register]
    by_cases old : name ∈ l.map Prod.fst
    · rw [if_pos ((shows.isSome_get?_iff name).2 old), Named.map_fst_put_of_mem c old, shows.names]
    · rw [if_neg fun there => old ((shows.isSome_get?_iff name).1 there), Named.put_of_not_mem c old,
        shows.names, List.map_append]
      rfl
  distinct := Named.nodup_put shows.distinct
  get? other := by rw [get?_register, Named.lookup_put, shows.get?]
  size := by
    have there := shows.isSome_get?_iff name
    have size : (r.register name c).2.size = if (r.get? name).isSome then r.size else r.size + 1 := by
      rw [Registry.size, Registry.register, Std.TreeMap.size_insert,
        Std.TreeMap.contains_eq_isSome_getElem?]
      rfl
    by_cases old : name ∈ l.map Prod.fst
    · have same := congrArg List.length (Named.map_fst_put_of_mem c old)
      rw [List.length_map, List.length_map] at same
      rw [size, if_pos (there.2 old), shows.size, same]
    · rw [size, if_neg fun found => old (there.1 found), shows.size, Named.put_of_not_mem c old,
        List.length_append]
      rfl

theorem registerAll (calls : List (String × ClassRef)) :
    (r.registerAll calls).2.Shows (Named.putAll calls l) := by
  induction calls generalizing r l with
  | nil => exact shows
  | cons call calls ih => exact ih (shows.register call.1 call.2)

end Shows

/-- What registrations from an empty registry on answer, and what stands there afterwards: the last
class under each name, with the names in the order of their first registration. -/
structure AnswersLast (calls : List (String × ClassRef)) : Prop where
  get? : ∀ name, (after calls).get? name = calls.reverse.lookup name
  names : (after calls).names = (calls.map Prod.fst).eraseDups
  distinct : (after calls).names.Nodup
  registered : ∀ name, name ∈ (after calls).names ↔ ((after calls).get? name).isSome = true
  contains : ∀ name, (after calls).contains name = ((after calls).get? name).isSome
  size : (after calls).size = (after calls).names.length
  isEmpty : (after calls).isEmpty = (after calls).names.isEmpty
  /-- Each registration answers with what stood under its name just before. -/
  replaced : (({} : Registry).registerAll calls).1 =
    calls.mapIdx fun i call => (after (calls.take i)).get? call.1
  /-- The empty name is that of the root, whatever is registered under it; -/
  root : ∀ className root, (after calls).resolve className "" root = .ok root
  /-- every other one is that of the class which stands under it. -/
  resolved : ∀ className name root, name ≠ "" → (after calls).resolve className name root =
    match (after calls).get? name with
    | some c => .ok c
    | none => .error (.unresolvedSuperclass className name)

theorem answersLast (calls : List (String × ClassRef)) : AnswersLast calls := by
  have shows : (after calls).Shows (Named.putAll calls []) := shows_empty.registerAll calls
  have size : (after calls).size = (after calls).names.length := by
    rw [shows.size, shows.names, List.length_map]
  constructor
  case get? => exact fun name => (shows.get? name).trans (Named.lookup_putAll calls name)
  case names => exact shows.names.trans (Named.names_putAll calls)
  case distinct => exact shows.names ▸ shows.distinct
  case registered => exact fun name => shows.names ▸ (shows.isSome_get?_iff name).symm
  case contains => exact fun name => Std.TreeMap.contains_eq_isSome_getElem?
  case size => exact size
  case isEmpty =>
    have count : (after calls).classes.size = (after calls).names.length := size
    rw [isEmpty, Std.TreeMap.isEmpty_eq_size_eq_zero, count]
    cases (after calls).names <;> rfl
  case replaced => exact answers_registerAll {} calls
  case root => exact fun className root => resolve_empty _ className root
  case resolved =>
    intro className name root other
    refine (if_neg other).trans ?_
    cases (after calls).get? name <;> rfl

end Registry

/-- The classes that an event registers in a registry, with their names. -/
def Event.registrations (h : Heap) (r : RegistryRef) : Event → List (String × ClassRef)
  | register s c => if s = r then [((h.klass c).name, c)] else []
  | klass rt d _ => if (h.runtime rt).registry = r then [(d.name, h.classes.fresh)] else []
  | openRuntime options => if h.registries.fresh = r then [(options.rootName, h.classes.fresh)] else []
  | _ => []

/-- The classes that events register in a registry one after another, from a heap on. -/
def Heap.registrations (h : Heap) (r : RegistryRef) : List Event → List (String × ClassRef)
  | [] => []
  | e :: es => e.registrations h r ++ (e.apply h).registrations r es

theorem Registry.get_modify_register {a : Arena .registry Registry} {s : RegistryRef}
    (live : a.isLive s = true) (r : RegistryRef) (name : String) (c : ClassRef) :
    (a.modify s fun x => (x.register name c).2).get r =
      ((a.get r).registerAll (if s = r then [(name, c)] else [])).2 := by
  rw [Arena.get_modify live]
  by_cases here : s = r
  · rw [if_pos here.symm, if_pos here, here]
    rfl
  · rw [if_neg (Ne.symm here), if_neg here]
    rfl

/-- An event leaves of every registry what its registrations leave. -/
theorem Event.registry_apply {watch : Watch} {h : Heap} (closed : h.Closed) {e : Event}
    (allowed : e.Allowed watch h) (r : RegistryRef) :
    (e.apply h).registry r = ((h.registry r).registerAll (e.registrations h r)).2 := by
  cases e with
  | register s c =>
    rw [apply, Update.register_apply]
    exact Registry.get_modify_register allowed.1 r (h.klass c).name c
  | klass rt d p =>
    rw [apply, Update.buildClass_apply]
    exact Registry.get_modify_register (closed.runtime allowed.1).registry r d.name h.classes.fresh
  | registry => exact Arena.get_add_same h.registries {} r id rfl
  | openRuntime options =>
    rw [apply, Update.openRuntime_apply, registrations]
    by_cases new : h.registries.fresh = r
    · subst new
      have empty : h.registry h.registries.fresh = {} := Arena.get_of_not_isLive (by simp)
      rw [if_pos rfl, Heap.registry, Arena.get_add_fresh, empty]
      rfl
    · rw [if_neg new, Heap.registry, Arena.get_add, if_neg (Ne.symm new)]
      rfl
  | _ => exact congrArg (Arena.get · r) ((frame _ h).registries (by simp [footprint]))

/-- What an event registers is a class, with the name of the class. -/
theorem Event.named_registrations {watch : Watch} {h : Heap} {e : Event} (allowed : e.Allowed watch h)
    {r : RegistryRef} {call : String × ClassRef} (member : call ∈ e.registrations h r) :
    (e.apply h).classes.isLive call.2 = true ∧ ((e.apply h).klass call.2).name = call.1 := by
  cases e with
  | register s c =>
    rw [registrations] at member
    split at member
    · cases List.mem_singleton.1 member
      exact ⟨allowed.2.1, rfl⟩
    · cases member
  | klass rt d p =>
    rw [registrations] at member
    split at member
    · cases List.mem_singleton.1 member
      refine ⟨?_, congrArg ClassCell.name (Update.buildClass_class rt d p h)⟩
      rw [apply, Update.buildClass_apply]
      simp
    · cases member
  | openRuntime options =>
    rw [registrations] at member
    split at member
    · cases List.mem_singleton.1 member
      refine ⟨?_, congrArg ClassCell.name (Update.openRuntime_class options h)⟩
      rw [apply, Update.openRuntime_apply]
      simp
    · cases member
  | _ => cases member

/-- A trace leaves of every registry what its registrations leave, and these are of classes under their
own names. -/
theorem Trace.registry {watch : Watch} {h h' : Heap} {es : List Event} (trace : Trace watch h es h')
    (closed : h.Closed) (r : RegistryRef) :
    h'.registry r = ((h.registry r).registerAll (h.registrations r es)).2 ∧
      ∀ call ∈ h.registrations r es,
        h'.classes.isLive call.2 = true ∧ (h'.klass call.2).name = call.1 := by
  induction trace with
  | nil => exact ⟨rfl, List.forall_mem_nil _⟩
  | cons allowed rest ih =>
    obtain ⟨left, named⟩ := ih (Event.closed closed allowed)
    refine ⟨?_, ?_⟩
    · rw [left, Event.registry_apply closed allowed, Heap.registrations, Registry.registerAll_append]
    · rw [Heap.registrations]
      refine List.forall_mem_append.2 ⟨fun call member => ?_, named⟩
      obtain ⟨live, name⟩ := Event.named_registrations allowed member
      exact ⟨rest.extends.classes.isLive live, (rest.extends.klass live).name.trans name⟩

/-- What stands in a registry of a world is what registrations of classes under their own names left,
and one registration more is answered by it and adds to it. -/
structure KeepsLast {σ : Type} (w : World σ) (r : RegistryRef) (calls : List (String × ClassRef)) :
    Prop where
  left : w.heap.registry r = Registry.after calls
  named : ∀ call ∈ calls,
    w.heap.classes.isLive call.2 = true ∧ (w.heap.klass call.2).name = call.1
  next : ∀ s : Setting σ, s.watch = {} → ∀ c, w.heap.registries.isLive r = true →
    w.heap.classes.isLive c = true → ∃ h', s.perform (.register r c) w =
        some (.ok ((w.heap.registry r).get? (w.heap.klass c).name), { w with heap := h' }) ∧
      h'.registry r = Registry.after (calls ++ [((w.heap.klass c).name, c)]) ∧
      (∀ other, other ≠ r → h'.registry other = w.heap.registry other) ∧
      w.heap.SameOutside [.registry] h'

/-- Every registry that events lead to keeps the last classes. -/
theorem Heap.Reached.keepsLast {σ : Type} {watch : Watch} {w : World σ}
    (reached : w.heap.Reached watch) (r : RegistryRef) : ∃ calls, KeepsLast w r calls := by
  obtain ⟨es, trace⟩ := reached
  obtain ⟨left, named⟩ := trace.registry Heap.closed_empty r
  refine ⟨_, left, named, ?_⟩
  intro s free c live there
  have allowed : Event.Allowed {} w.heap (.register r c) := ⟨live, there, rfl⟩
  have more := Event.registry_apply (Heap.Reached.closed ⟨es, trace⟩) allowed
  have asked : Request.isLive w.heap (.register r c) = true := by
    rw [Request.isLive, live, there]
    rfl
  refine ⟨Event.apply w.heap (.register r c), Setting.perform_apply asked (by rw [free]), ?_, ?_,
    Event.frame (.register r c) w.heap⟩
  · rw [more r, Event.registrations, if_pos rfl, Registry.after, Registry.registerAll_append, left]
    rfl
  · intro other apart
    rw [more other, Event.registrations, if_neg (Ne.symm apart)]
    rfl

/-- Registries keep the last class under each name, and the names in the order in which they came. At
every moment of a run, and wherever else a program can be, each registry is what registrations left of an
empty one; what a program finds there later is what further registrations made of it. -/
theorem registries_keep_the_last {σ : Type} (watch : Watch) (depth : Nat) (p : Program σ) (state : σ)
    (count : Nat) :
    (∀ calls, Registry.AnswersLast calls) ∧
      ((∀ m ∈ p.moments watch depth state count, ∀ r, ∃ calls, KeepsLast m.toWorld r calls) ∧
        ∀ (τ : Type) (w : World τ), Reached watch w → ∀ r, ∃ calls, KeepsLast w r calls) ∧
      (p.moments watch depth state count).Pairwise fun earlier later =>
        ∃ es, Trace watch earlier.heap es later.heap ∧ ∀ r, later.heap.registry r =
          ((earlier.heap.registry r).registerAll (earlier.heap.registrations r es)).2 := by
  refine ⟨Registry.answersLast, ?_, ?_⟩
  · exact everywhere_of_reached (P := fun _ w => ∀ r, ∃ calls, KeepsLast w r calls)
      (fun _ _ reached => reached.keepsLast) watch depth p state count
  · refine (Program.moments_ordered watch depth p state count).imp_of_mem ?_
    rintro earlier later member _ ⟨es, trace⟩
    have closed := (Program.sound_of_mem_moments member).reached.closed
    exact ⟨es, trace, fun r => (trace.registry closed r).1⟩

/-- Defines two classes without a name, and registers the first one once more. -/
def reregistering : Program Unit := Script.toProgram do
  let rt ← Script.ask (.newRuntime {})
  let c ← Script.ask (.defineClass rt { name := "" })
  let _ ← Script.ask (.defineClass rt { name := "" })
  let _ ← Script.ask (.register ⟨0⟩ c)
  return .klass c

theorem reregistering_answers :
    ∃ m ∈ reregistering.moments {} 2 () 20, ∃ calls h',
      (m.heap.registry ⟨0⟩).names = ["Object", "Class", ""] ∧
      (m.heap.registry ⟨0⟩).resolve "A" "" ⟨0⟩ = .ok ⟨0⟩ ∧ KeepsLast m.toWorld ⟨0⟩ calls ∧
      (Setting.within {} 0).perform (.register ⟨0⟩ ⟨3⟩) m.toWorld =
        some (.ok (some ⟨2⟩), { m.toWorld with heap := h' }) ∧
      h'.registry ⟨0⟩ = .after (calls ++ [("", ⟨3⟩)]) := by
  have registered : (reregistering.moments {} 2 () 20).any (fun m =>
      m.heap.registries.isLive ⟨0⟩ && m.heap.classes.isLive ⟨3⟩ &&
      decide ((m.heap.klass ⟨3⟩).name = "") &&
      decide ((m.heap.registry ⟨0⟩).names = ["Object", "Class", ""]) &&
      decide ((m.heap.registry ⟨0⟩).get? "" = some ⟨2⟩)) = true := by
    decide +kernel
  obtain ⟨m, member, facts⟩ := List.any_eq_true.1 registered
  simp only [Bool.and_eq_true, decide_eq_true_iff] at facts
  obtain ⟨⟨⟨⟨live, there⟩, name⟩, names⟩, last⟩ := facts
  obtain ⟨answers, ⟨moments, _⟩, _⟩ := registries_keep_the_last {} 2 reregistering () 20
  obtain ⟨calls, keeps⟩ := moments m member ⟨0⟩
  obtain ⟨h', run, left, _⟩ := keeps.next (Setting.within {} 0) rfl ⟨3⟩ live there
  rw [name] at run left
  refine ⟨m, member, calls, h', names, ?_, keeps, last ▸ run, left⟩
  rw [keeps.left]
  exact (answers calls).root "A" ⟨0⟩

end ProtoClass
