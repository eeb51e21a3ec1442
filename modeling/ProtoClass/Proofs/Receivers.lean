import ProtoClass.Proofs.Permanence
import ProtoClass.Proofs.Pinned
import ProtoClass.Proofs.Surfaces

set_option autoImplicit false

/- Whatever a value is, looking for a member ends at the root prototype of some runtime: by way of the
object itself, of the statics of a class, of the prototype of strings, or at once. There the surface of
all receivers is pinned, so no program can be rid of it; it can put other values in its place, and then
calling a member may be refused, but never for want of the member. -/
namespace ProtoClass

namespace Heap

variable {h : Heap} {o p : ObjectRef} {name : String}

/-- Does an object have a property of its own under a name that is pinned and hidden? -/
def Pins (h : Heap) (o : ObjectRef) (name : String) : Prop :=
  ∃ p, h.ownProperty o name = some p ∧ p.flags.configurable = false ∧ p.flags.enumerable = false

theorem HasBuiltin.pins {b : Builtin} (has : h.HasBuiltin o name b) : h.Pins o name := by
  obtain ⟨f, _, own, _⟩ := has
  exact ⟨_, own, rfl, rfl⟩

/-- No events are rid of it. -/
theorem Pins.later {watch : Watch} {h' : Heap} {es : List Event} (pins : h.Pins o name)
    (trace : Trace watch h es h') (live : h.objects.isLive o = true) : h'.Pins o name := by
  obtain ⟨p, own, pinned, isHidden⟩ := pins
  obtain ⟨_, q, own', flags, _⟩ := trace.pinned live own pinned
  exact ⟨q, own', flags ▸ pinned, flags ▸ isHidden⟩

/-- Whoever delegates to the object sees the property, or another one in front of it. -/
theorem Pins.isSome_get (pins : h.Pins p name) (above : p ∈ h.chain o) :
    (h.get o name).isSome = true := by
  obtain ⟨q, own, _⟩ := pins
  rw [Heap.get, List.findSome?_isSome_iff]
  refine ⟨p, above, ?_⟩
  rw [getOwn, own]
  rfl

end Heap

/-- The names of the surface of all receivers. -/
def rootMembers : List String := ["hashCode", "equals", "toString", "getClass"]

/-- What programs cannot be rid of: the surface of all receivers on the root prototype, the tests on the
prototype of strings, and the way from the one to the other. -/
structure KeepsSurfaces (h : Heap) (rt : RuntimeRef) (host : HostType) : Prop where
  hosted : h.hostNamed rt "String" = some host
  above : h.rootPrototype rt ∈ h.chain host.prototype
  root : ∀ name ∈ rootMembers, h.Pins (h.rootPrototype rt) name
  tests : ∀ name ∈ ["startsWith", "endsWith"], h.Pins host.prototype name

theorem Surfaces.keeps {h : Heap} {rt : RuntimeRef} {host : HostType} (surfaces : Surfaces h rt host)
    (closed : h.Closed) : KeepsSurfaces h rt host := by
  constructor
  case hosted => exact surfaces.hosted
  case above =>
    by_cases same : (h.runtime rt).options.rootName = "String"
    · rw [surfaces.joined same]
      exact h.mem_chain_self _
    · rw [closed.chain_of_some (surfaces.apart same).1]
      exact List.mem_cons_of_mem _ (h.mem_chain_self _)
  case root =>
    intro name among
    obtain ⟨member, listed, rfl⟩ :=
      List.mem_map.1 (show name ∈ Update.objectSurface.map Prod.fst from among)
    exact (surfaces.root member listed).pins
  case tests =>
    intro name among
    obtain ⟨member, listed, rfl⟩ := List.mem_map.1 (show name ∈ stringTests.map Prod.fst from among)
    exact (surfaces.tests member listed).pins

theorem KeepsSurfaces.later {watch : Watch} {h h' : Heap} {es : List Event} {rt : RuntimeRef}
    {host : HostType} (keeps : KeepsSurfaces h rt host) (closed : h.Closed) (closed' : h'.Closed)
    (runtime : h.runtimes.isLive rt = true) (trace : Trace watch h es h') :
    KeepsSurfaces h' rt host := by
  have extended := trace.extends
  have root := extended.rootPrototype closed runtime
  have live := (closed.host_closed runtime keeps.hosted).prototype
  constructor
  case hosted => exact extended.hostNamed runtime keeps.hosted
  case above =>
    rw [root, closed.chain_later extended closed' live]
    exact keeps.above
  case root =>
    intro name among
    rw [root]
    exact (keeps.root name among).later trace (closed.rootPrototype_live runtime)
  case tests =>
    intro name among
    exact (keeps.tests name among).later trace live

/-- A runtime that was built keeps its surfaces for ever. -/
theorem Heap.Built.keepsSurfaces {watch : Watch} {h : Heap} {rt : RuntimeRef}
    (built : h.Built watch rt) : ∃ host, KeepsSurfaces h rt host := by
  obtain ⟨options, h₀, from₀⟩ := built
  obtain rfl := from₀.made
  obtain ⟨h₁, host, closed, runtime, surfaces, rest⟩ :=
    buildRuntime_surfaces watch options from₀.reached.closed
  have passage := rest.trans from₀.since
  obtain ⟨es, trace⟩ := passage.trace
  exact ⟨host, (surfaces.keeps closed).later closed (passage.closed closed) runtime trace⟩

/-- Does looking for members of a value end at a root prototype? Objects need not delegate to one, all
other values do. -/
def Heap.Reaches (h : Heap) : Value → Prop
  | .object o => ∃ rt, h.runtimes.isLive rt = true ∧ h.rootPrototype rt ∈ h.chain o
  | .klass c => h.classes.isLive c = true
  | _ => True

theorem Heap.Settled.source_reaches {watch : Watch} {h : Heap} (settled : h.Settled watch)
    {rt : RuntimeRef} (runtime : h.runtimes.isLive rt = true) {v : Value} (reaches : h.Reaches v) :
    ∃ other, h.runtimes.isLive other = true ∧ h.rootPrototype other ∈ h.chain (h.memberSource rt v) := by
  cases v with
  | object o => exact reaches
  | klass c =>
    obtain ⟨other, live, defined⟩ := settled.reached.allDefined c reaches
    refine ⟨other, live, ?_⟩
    rw [Heap.memberSource, settled.reached.closed.chain_of_some defined]
    exact List.mem_cons_of_mem _ (h.mem_chain_self _)
  | string s =>
    obtain ⟨host, keeps⟩ := (settled.built rt runtime).keepsSurfaces
    refine ⟨rt, runtime, ?_⟩
    rw [Heap.memberSource, keeps.hosted]
    exact keeps.above
  | _ => exact ⟨rt, runtime, h.mem_chain_self _⟩

/-- A member is found, so calling it comes down to calling what was found, or is refused because that is
no function. -/
structure Finds {σ : Type} (w : World σ) (rt : RuntimeRef) (receiver : Value) (name : String) :
    Prop where
  lookup : (w.heap.lookup rt receiver name).isSome = true
  invoke : ∀ (s : Setting σ) (args : List Value),
    (∃ f, w.heap.lookup rt receiver name = some (.function f) ∧
      s.invoke rt receiver name args w = s.call f rt receiver args w) ∨
    s.invoke rt receiver name args w = some (.error (.notCallable name), w)

theorem finds_of_lookup {σ : Type} {w : World σ} {rt : RuntimeRef} {receiver : Value} {name : String}
    (found : (w.heap.lookup rt receiver name).isSome = true) : Finds w rt receiver name := by
  refine ⟨found, fun s args => ?_⟩
  obtain ⟨v, seen⟩ := Option.isSome_iff_exists.1 found
  cases v with
  | function f => exact Or.inl ⟨f, seen, Setting.invoke_apply seen args⟩
  | _ =>
    apply Or.inr
    unfold Setting.invoke
    rw [Action.heap_bind_apply, seen]
    rfl

/-- Every receiver has the surface of all receivers, and every string has the tests. -/
structure AnswersAll {σ : Type} (w : World σ) (rt : RuntimeRef) : Prop where
  pinned : ∀ name ∈ rootMembers, ∃ p,
    w.heap.ownProperty (w.heap.rootPrototype rt) name = some p ∧ p.flags.configurable = false ∧
      p.flags.enumerable = false ∧
      name ∉ (w.heap.object (w.heap.rootPrototype rt)).properties.keys
  members : ∀ name ∈ rootMembers, ∀ receiver, w.heap.Reaches receiver → Finds w rt receiver name
  tests : ∀ name ∈ ["startsWith", "endsWith"], ∀ s, Finds w rt (.string s) name

theorem answersAll_of_settled {σ : Type} {watch : Watch} {w : World σ} (settled : w.heap.Settled watch)
    {rt : RuntimeRef} (runtime : w.heap.runtimes.isLive rt = true) : AnswersAll w rt := by
  obtain ⟨host, keeps⟩ := (settled.built rt runtime).keepsSurfaces
  constructor
  case pinned =>
    intro name among
    obtain ⟨p, own, pinned, isHidden⟩ := keeps.root name among
    exact ⟨p, own, pinned, isHidden, PropertyTable.not_mem_keys own isHidden⟩
  case members =>
    intro name among receiver reaches
    obtain ⟨other, live, above⟩ := settled.source_reaches runtime reaches
    obtain ⟨_, root⟩ := (settled.built other live).keepsSurfaces
    exact finds_of_lookup ((root.root name among).isSome_get above)
  case tests =>
    intro name among s
    apply finds_of_lookup
    rw [Heap.lookup, Heap.memberSource, keeps.hosted]
    exact (keeps.tests name among).isSome_get (w.heap.mem_chain_self _)

/-- At every moment of a run, whatever the program has assigned, defined, deleted or installed, every
receiver answers to the surface of all receivers. -/
theorem every_receiver_answers {σ : Type} (watch : Watch) (depth : Nat) (p : Program σ) (state : σ)
    (count : Nat) :
    (∀ m ∈ p.moments watch depth state count, ∀ rt, m.heap.runtimes.isLive rt = true →
        AnswersAll m.toWorld rt) ∧
      ∀ (τ : Type) (w : World τ) rt, w.heap.Settled watch → w.heap.runtimes.isLive rt = true →
        AnswersAll w rt := by
  constructor
  · intro m member rt runtime
    have settled := (Program.sound_of_mem_moments member).toSettled
    exact answersAll_of_settled (w := m.toWorld) settled runtime
  · intro τ w rt settled runtime
    exact answersAll_of_settled settled runtime

/-- Tries to be rid of the surface of a root that is called like the host type of strings. -/
def besieging : Program Unit := Script.toProgram do
  let rt ← Script.ask (.newRuntime { rootName := "String" })
  let _ ← Script.ask (.delete ⟨0⟩ "hashCode")
  let _ ← Script.ask (.define ⟨0⟩ "startsWith" .null .plain)
  let _ ← Script.ask (.set ⟨0⟩ "toString" .null)
  let _ ← Script.ask (.registerHost rt "String" none)
  return .string (← Script.ask (.newString []))

theorem besieging_answers :
    ∃ m ∈ besieging.moments {} 2 () 20,
      m.heap.runtimes.isLive ⟨0⟩ = true ∧ m.heap.classes.isLive ⟨0⟩ = true ∧
      m.heap.getOwn (m.heap.rootPrototype ⟨0⟩) "toString" = some .null ∧
      Finds m.toWorld ⟨0⟩ (.klass ⟨0⟩) "hashCode" ∧
      Finds m.toWorld ⟨0⟩ (.string ⟨0⟩) "startsWith" := by
  have ends : (besieging.moments {} 2 () 20).any (fun m =>
      m.heap.runtimes.isLive ⟨0⟩ && m.heap.classes.isLive ⟨0⟩ &&
      decide (m.heap.getOwn (m.heap.rootPrototype ⟨0⟩) "toString" = some .null)) = true := by
    decide +kernel
  obtain ⟨m, member, facts⟩ := List.any_eq_true.1 ends
  simp only [Bool.and_eq_true, decide_eq_true_iff] at facts
  obtain ⟨⟨runtime, root⟩, overwritten⟩ := facts
  have answers := (every_receiver_answers {} 2 besieging () 20).1 m member ⟨0⟩ runtime
  exact ⟨m, member, runtime, root, overwritten,
    answers.members "hashCode" (by decide) (.klass ⟨0⟩) root, answers.tests "startsWith" (by decide) ⟨0⟩⟩

end ProtoClass
