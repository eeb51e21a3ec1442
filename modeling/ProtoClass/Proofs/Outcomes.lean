import ProtoClass.Proofs.Declared
import ProtoClass.Proofs.Registering

set_option autoImplicit false

/- A definition is refused for one of two reasons, which can be told from the heap that it finds: an
entry of the flat form is no static initializer though it stands where one should, or the superclass is
not registered. Then nothing has happened. Otherwise the class is made, and the only error that can
come is one of its static initializer, which comes too late to undo anything. -/
namespace ProtoClass

/-- A class as a program describes it: entry by entry, or in the flat form. -/
inductive ClassSource where
  | spec (d : Definition)
  | flat (name superclass : String) (entries : List (String × Value))
      (annotations : Option (List (String × Value)))

namespace ClassSource

def name : ClassSource → String
  | spec d => d.name
  | flat name _ _ _ => name

def superclass : ClassSource → String
  | spec d => d.superclass
  | flat _ superclass _ _ => superclass

/-- The entry of the flat form that cannot be read. -/
def misfit? (marker : Char) : ClassSource → Option (String × Value)
  | spec _ => none
  | flat _ _ entries _ => entries.find? (Definition.misfits marker)

def read (marker : Char) : ClassSource → Except Error Definition
  | spec d => .ok d
  | flat name superclass entries annotations =>
    Definition.parse name superclass entries annotations marker

/-- Does the description name only things that are there? -/
def isLive (h : Heap) (rt : RuntimeRef) : ClassSource → Bool
  | spec d => Request.isLive h (.defineClass rt d)
  | flat name superclass entries annotations =>
    Request.isLive h (.defineFlat rt name superclass entries annotations)

/-- The request to define the class. -/
def define {σ : Type} (s : Setting σ) (rt : RuntimeRef) : ClassSource → Action σ ClassRef
  | spec d => s.perform (.defineClass rt d)
  | flat name superclass entries annotations =>
    s.perform (.defineFlat rt name superclass entries annotations)

/-- The reason for which a definition is refused; what cannot be read is refused first. -/
def refusal? (h : Heap) (rt : RuntimeRef) (source : ClassSource) : Option Error :=
  match source.misfit? (h.runtime rt).options.staticMarker with
  | some entry => some (.typeError (.initializerNotFunction source.name entry.2.kindName))
  | none =>
    if source.superclass = "" ∨ (h.classNamed rt source.superclass).isSome then none
    else some (.unresolvedSuperclass source.name source.superclass)

variable {σ : Type} {w : World σ} {rt : RuntimeRef}

/-- What is read is there, with the name and the superclass that were given. -/
theorem read_of_fit {source : ClassSource}
    (fit : source.misfit? (w.heap.runtime rt).options.staticMarker = none)
    (live : source.isLive w.heap rt = true) :
    ∃ d, source.read (w.heap.runtime rt).options.staticMarker = .ok d ∧ d.name = source.name ∧
      d.superclass = source.superclass ∧ w.heap.runtimes.isLive rt = true ∧
      w.heap.hasDefinition d = true := by
  cases source with
  | spec d =>
    rw [isLive, Request.isLive, Bool.and_eq_true] at live
    exact ⟨d, rfl, rfl, rfl, live⟩
  | flat name superclass entries annotations =>
    simp only [isLive, Request.isLive, Bool.and_eq_true] at live
    have parsed := Definition.parse_of_fit fit name superclass annotations
    exact ⟨_, parsed, rfl, rfl, live.1.1, Heap.hasDefinition_parse live.1.2 live.2 parsed⟩

/-- What was read is defined, in whatever form it was given. -/
theorem define_of_read {source : ClassSource} {d : Definition} {s : Setting σ} (free : s.watch = {})
    (live : source.isLive w.heap rt = true)
    (read : source.read (w.heap.runtime rt).options.staticMarker = .ok d) :
    source.define s rt w = s.defineClass rt d w := by
  cases source with
  | spec d' =>
    cases read
    exact Setting.perform_apply live (by rw [free])
  | flat name superclass entries annotations =>
    have asked : Request.isLive w.heap (.defineFlat rt name superclass entries annotations) = true :=
      live
    exact (Setting.perform_apply asked (by rw [free])).trans (Setting.defineFlat_of_read read)

theorem define_of_unread {source : ClassSource} {entry : String × Value} {s : Setting σ}
    (free : s.watch = {}) (live : source.isLive w.heap rt = true)
    (misfit : source.misfit? (w.heap.runtime rt).options.staticMarker = some entry) :
    source.define s rt w =
      some (.error (.typeError (.initializerNotFunction source.name entry.2.kindName)), w) := by
  cases source with
  | spec d => cases misfit
  | flat name superclass entries annotations =>
    have asked : Request.isLive w.heap (.defineFlat rt name superclass entries annotations) = true :=
      live
    exact (Setting.perform_apply asked (by rw [free])).trans
      (Setting.defineFlat_of_unread (Definition.parse_of_misfit misfit name superclass annotations))

/-- A definition that is refused fails, however functions are called, and leaves the world alone. -/
theorem define_of_refused {source : ClassSource} {e : Error} {s : Setting σ} (free : s.watch = {})
    (live : source.isLive w.heap rt = true) (refused : source.refusal? w.heap rt = some e) :
    source.define s rt w = some (.error e, w) := by
  unfold refusal? at refused
  split at refused
  · next entry misfit =>
    cases refused
    exact define_of_unread free live misfit
  · next fit =>
    obtain ⟨d, read, name, superclass, _⟩ := read_of_fit fit live
    split at refused
    · cases refused
    · next unknown =>
      cases refused
      obtain ⟨named, unregistered⟩ := not_or.1 unknown
      rw [Option.not_isSome_iff_eq_none] at unregistered
      rw [define_of_read free live read]
      apply Setting.defineClass_of_unresolved
      rw [name, superclass, Registry.resolve, if_neg named]
      rw [Heap.classNamed] at unregistered
      rw [unregistered]

/-- Any other definition makes the class that it describes. -/
theorem resolved_of_accepted {source : ClassSource} (live : source.isLive w.heap rt = true)
    (accepted : source.refusal? w.heap rt = none) :
    ∃ d p, source.read (w.heap.runtime rt).options.staticMarker = .ok d ∧ d.name = source.name ∧
      d.superclass = source.superclass ∧ Event.Allowed {} w.heap (.klass rt d p) := by
  unfold refusal? at accepted
  split at accepted
  · cases accepted
  · next fit =>
    obtain ⟨d, read, name, superclass, runtime, there⟩ := read_of_fit fit live
    split at accepted
    · next known =>
      rw [← superclass] at known
      obtain ⟨p, resolved⟩ := Registry.resolve_isOk d.name (w.heap.runtime rt).root known
      exact ⟨d, p, read, name, superclass, runtime, there, resolved⟩
    · cases accepted

end ClassSource

/-- What is left of a class that was made in one heap when its static initializer has ended in another
one, with a value or with an error. -/
structure Remains (built : Heap) (rt : RuntimeRef) (d : Definition) (p c : ClassRef) (h : Heap) : Prop
    where
  traced : ∃ es, Trace {} built es h
  live : h.classes.isLive c = true
  attached : Attached h rt d p c
  /-- The class has the objects that it got, -/
  objects : (built.klass c).Becomes (h.klass c)
  /-- and they have the properties that they got, but for those that the initializer writes. -/
  filled : ∀ es o name, Trace {} built es h →
    o ∈ [(built.klass c).prototype, (built.klass c).statics, (built.klass c).annotations] →
    (∀ e ∈ es, ¬ e.Writes o name) → h.ownProperty o name = built.ownProperty o name
  /-- The name stays with the class, unless the initializer registers another one under it. -/
  registered : ∀ es, Trace {} built es h → h.classNamed rt d.name =
    some ((built.lastRegistered (built.runtime rt).registry d.name es).getD c)

theorem Made.remains {h₀ built h : Heap} {rt : RuntimeRef} {d : Definition} {p c : ClassRef}
    (made : Made h₀ rt d p c built) (closed : built.Closed) (runtime : built.runtimes.isLive rt = true)
    (traced : ∃ es, Trace {} built es h) : Remains built rt d p c h := by
  obtain ⟨first, trace⟩ := traced
  have extended := trace.extends
  have parts := closed.klass made.live
  refine ⟨⟨first, trace⟩, extended.classes.isLive made.live,
    made.attached.later closed extended runtime made.live, extended.klass made.live, ?_, ?_⟩
  · intro es o name trace among unwritten
    have live : built.objects.isLive o = true := by
      simp only [List.mem_cons, List.not_mem_nil, or_false] at among
      rcases among with rfl | rfl | rfl
      · exact parts.prototype
      · exact parts.statics
      · exact parts.annotations
    exact trace.ownProperty_eq live unwritten
  · intro es trace
    rw [Heap.classNamed, Heap.registryOf, (extended.runtime runtime).registry,
      trace.get?_registry (closed.runtime runtime).registry, ← Heap.registryOf, ← Heap.classNamed,
      made.registered, Option.or_some]

/-- Whatever the initializer does, the class that was built remains. -/
theorem remains_of_called {σ : Type} {w w' : World σ} (reached : w.heap.Reached {}) {rt : RuntimeRef}
    {d : Definition} {p : ClassRef} (allowed : Event.Allowed {} w.heap (.klass rt d p))
    {f : FunctionRef} (initializer : d.initializer = some f) {n : Nat} {r : Except Error Value}
    (called : callWithin {} n f rt (.klass w.heap.classes.fresh) []
      { w with heap := (Update.buildClass rt d p w.heap).2 } = some (r, w')) :
    Remains (Update.buildClass rt d p w.heap).2 rt d p w.heap.classes.fresh w'.heap := by
  have made := Update.made_buildClass reached.closed allowed
  have reached' : (Update.buildClass rt d p w.heap).2.Reached {} := reached.trace (.single allowed)
  have extended := w.heap.extends_buildClass rt d p
  have runtime := extended.runtimes.isLive allowed.1
  have function := extended.functions.isLive
    ((Heap.hasDefinition_iff.1 allowed.2.1).2.2.1 f initializer)
  have there : (Update.buildClass rt d p w.heap).2.hasValue (.klass w.heap.classes.fresh) = true :=
    made.live
  have kept := (within_lawful {} n).call (w := { w with heap := _ }) reached' function runtime there rfl
    _ _ called
  exact made.remains reached'.closed runtime kept.leads.trace

/-- How a definition ends that is not refused. -/
structure Ends {σ : Type} (w : World σ) (rt : RuntimeRef) (source : ClassSource) (d : Definition)
    (p : ClassRef) (built : Heap) : Prop where
  read : source.read (w.heap.runtime rt).options.staticMarker = .ok d
  made : Made w.heap rt d p w.heap.classes.fresh built
  /-- Without an initializer nothing can fail any more; -/
  uninitialized : d.initializer = none → ∀ s : Setting σ, s.watch = {} →
    source.define s rt w = some (.ok w.heap.classes.fresh, { w with heap := built })
  /-- with one, the definition ends as it does, -/
  initialized : ∀ f, d.initializer = some f → ∀ s : Setting σ, s.watch = {} →
    source.define s rt w =
      (s.call f rt (.klass w.heap.classes.fresh) [] >>= fun _ => pure w.heap.classes.fresh)
        { w with heap := built }
  /-- and fails only with its error, in the world that it leaves. -/
  failed : ∀ n e w', source.define (Setting.within {} n) rt w = some (.error e, w') →
    ∃ f, d.initializer = some f ∧
      callWithin {} n f rt (.klass w.heap.classes.fresh) [] { w with heap := built } =
        some (.error e, w') ∧
      Remains built rt d p w.heap.classes.fresh w'.heap

/-- The definition is refused for its reason, before any function is called and with nothing changed; or
it makes the class, and ends as its initializer does. Within depth 0 no function can be called, so an
action that has a result there calls none. -/
def DefinitionsEnd {σ : Type} (w : World σ) : Prop :=
  ∀ rt source, source.isLive w.heap rt = true →
    (∀ e w', source.define (Setting.within {} 0) rt w = some (.error e, w') ↔
      source.refusal? w.heap rt = some e ∧ w' = w) ∧
    (∀ e, source.refusal? w.heap rt = some e → ∀ s : Setting σ, s.watch = {} →
      source.define s rt w = some (.error e, w)) ∧
    (source.refusal? w.heap rt = none → ∃ d p built, Ends w rt source d p built)

theorem ends_of_accepted {σ : Type} {w : World σ} (reached : w.heap.Reached {}) {rt : RuntimeRef}
    {source : ClassSource} (live : source.isLive w.heap rt = true)
    (accepted : source.refusal? w.heap rt = none) :
    ∃ d p built, Ends w rt source d p built := by
  obtain ⟨d, p, read, _, _, allowed⟩ := ClassSource.resolved_of_accepted live accepted
  have made := Update.made_buildClass reached.closed allowed
  have course : ∀ s : Setting σ, s.watch = {} → source.define s rt w =
      s.finishClass rt d w.heap.classes.fresh
        { w with heap := (Update.buildClass rt d p w.heap).2 } := by
    intro s free
    rw [ClassSource.define_of_read free live read, Setting.defineClass_of_resolved allowed.2.2]
  refine ⟨d, p, (Update.buildClass rt d p w.heap).2, read, made, ?_, ?_, ?_⟩
  · intro plain s free
    rw [course s free, Setting.finishClass_of_none plain]
  · intro f initializer s free
    rw [course s free, Setting.finishClass_of_some initializer]
  · intro n e w' run
    rw [course _ rfl] at run
    rcases Setting.finishClass_inv run with
      ⟨_, wrong, _⟩ | ⟨f, initializer, ⟨_, _, wrong⟩ | ⟨_, failed, same⟩⟩
    · cases wrong
    · cases wrong
    · cases same
      exact ⟨f, initializer, failed, remains_of_called reached allowed initializer failed⟩

theorem definitionsEnd_of_reached {σ : Type} {w : World σ} (reached : w.heap.Reached {}) :
    DefinitionsEnd w := by
  intro rt source live
  refine ⟨fun e w' => ⟨fun run => ?_, ?_⟩,
    fun e refused s free => ClassSource.define_of_refused free live refused,
    ends_of_accepted reached live⟩
  · cases refused : source.refusal? w.heap rt with
    | some e' =>
      rw [ClassSource.define_of_refused rfl live refused] at run
      cases run
      exact ⟨rfl, rfl⟩
    | none =>
      obtain ⟨d, p, built, ends⟩ := ends_of_accepted reached live refused
      obtain ⟨f, _, called, _⟩ := ends.failed 0 e w' run
      cases called
  · rintro ⟨refused, rfl⟩
    exact ClassSource.define_of_refused rfl live refused

/-- At every moment of a run, and wherever else a program can be, a definition that is refused leaves no
trace, and one whose initializer fails leaves a complete class. -/
theorem definitions_end {σ : Type} (watch : Watch) (depth : Nat) (p : Program σ) (state : σ)
    (count : Nat) :
    (∀ m ∈ p.moments watch depth state count, DefinitionsEnd m.toWorld) ∧
      ∀ (τ : Type) (w : World τ), Reached watch w → DefinitionsEnd w :=
  everywhere_of_reached (fun _ _ => definitionsEnd_of_reached) watch depth p state count

/-- Makes a function that defines a class and then fails. -/
def failing : Program Unit := Script.toProgram do
  let _ ← Script.ask (.newRuntime {})
  let f ← Script.newFunction "f" fun rt _ _ => Script.toProgram do
    let _ ← Script.ask (.defineClass rt { name := "A" })
    Script.fail (.typeError (.other "f"))
  return .function f

/-- A misfit is refused before an unknown superclass; a class whose initializer fails remains. -/
theorem failing_ends :
    ∃ m ∈ failing.moments {} 2 () 20,
      (ClassSource.flat "A" "B" [("_", .null)] none).define (Setting.within {} 0) ⟨0⟩ m.toWorld =
        some (.error (.typeError (.initializerNotFunction "A" "null")), m.toWorld) ∧
      (ClassSource.spec { name := "A", superclass := "B" }).define (Setting.within {} 0) ⟨0⟩
        m.toWorld = some (.error (.unresolvedSuperclass "A" "B"), m.toWorld) ∧
      ∃ p built w', (ClassSource.spec { name := "A", initializer := some ⟨16⟩ }).define
          (Setting.within {} 2) ⟨0⟩ m.toWorld = some (.error (.typeError (.other "f")), w') ∧
        Made m.heap ⟨0⟩ { name := "A", initializer := some ⟨16⟩ } p m.heap.classes.fresh built ∧
        Remains built ⟨0⟩ { name := "A", initializer := some ⟨16⟩ } p m.heap.classes.fresh w'.heap := by
  have ends : (failing.moments {} 2 () 20).any (fun m =>
      m.heap.runtimes.isLive ⟨0⟩ && m.heap.functions.isLive ⟨16⟩ &&
      decide ((ClassSource.flat "A" "B" [("_", .null)] none).refusal? m.heap ⟨0⟩ =
        some (.typeError (.initializerNotFunction "A" "null"))) &&
      decide ((ClassSource.spec { name := "A", superclass := "B" }).refusal? m.heap ⟨0⟩ =
        some (.unresolvedSuperclass "A" "B")) &&
      decide ((ClassSource.spec { name := "A", initializer := some ⟨16⟩ }).refusal? m.heap ⟨0⟩ =
        none) &&
      decide (((ClassSource.spec { name := "A", initializer := some ⟨16⟩ }).define
        (Setting.within {} 2) ⟨0⟩ m.toWorld).map Prod.fst =
          some (.error (.typeError (.other "f"))))) = true := by
    decide +kernel
  obtain ⟨m, member, facts⟩ := List.any_eq_true.1 ends
  simp only [Bool.and_eq_true, decide_eq_true_iff] at facts
  obtain ⟨⟨⟨⟨⟨runtime, function⟩, misfit⟩, unknown⟩, accepted⟩, fails⟩ := facts
  have endings := (definitions_end {} 2 failing () 20).1 m member ⟨0⟩
  have read : (ClassSource.flat "A" "B" [("_", .null)] none).isLive m.heap ⟨0⟩ = true := by
    rw [ClassSource.isLive, Request.isLive, runtime]
    rfl
  have plain : (ClassSource.spec { name := "A", superclass := "B" }).isLive m.heap ⟨0⟩ = true := by
    rw [ClassSource.isLive, Request.isLive, runtime]
    rfl
  have initialized : (ClassSource.spec { name := "A", initializer := some ⟨16⟩ }).isLive m.heap ⟨0⟩ =
      true := by
    rw [ClassSource.isLive, Request.isLive, runtime, Heap.hasDefinition, Option.all_some, function]
    rfl
  obtain ⟨⟨_, w'⟩, run, rfl⟩ := Option.map_eq_some_iff.1 fails
  obtain ⟨d, p, built, ending⟩ := (endings _ initialized).2.2 accepted
  obtain rfl := Except.ok.inj ending.read
  obtain ⟨_, _, _, remains⟩ := ending.failed 2 _ w' run
  exact ⟨m, member, ((endings _ read).1 _ _).2 ⟨misfit, rfl⟩,
    ((endings _ plain).1 _ _).2 ⟨unknown, rfl⟩, p, built, w', run, ending.made, remains⟩

end ProtoClass
