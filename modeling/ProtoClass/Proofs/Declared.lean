import ProtoClass.Proofs.FlatForm
import ProtoClass.Proofs.SelfHosting
import ProtoClass.Proofs.Spine
import ProtoClass.Proofs.Variants
import ProtoClass.Proofs.Writes

set_option autoImplicit false

/- What the flat form of a definition says is found again in a class: members, statics and annotations go
to three objects. One static is not the definition's own: under the name `toString` every class gets a
function that makes its text, also when the definition has a static of that name. -/
namespace ProtoClass

/-- A class that was defined from these entries and annotations has what they declare. -/
structure Declared (h : Heap) (c : ClassRef) (name : String) (marker : Char)
    (entries annotations : List (String × Value)) : Prop where
  /-- A member has the last value that was given under its key, -/
  member : ∀ key, Options.startsWithMarker marker key = false →
    h.getOwn (h.klass c).prototype key = entries.reverse.lookup key
  /-- a static has the last one that was given under its key with the marker, -/
  static : ∀ key, key ≠ "toString" →
    h.getOwn (h.klass c).statics key = entries.reverse.lookup (Definition.marked marker key)
  /-- unless it has the name of the text that every class makes. -/
  text : ∃ f, h.getOwn (h.klass c).statics "toString" = some (.function f) ∧
    (h.function f).code = .builtin (.classToString name)
  annotation : ∀ key, h.getOwn (h.klass c).annotations key = annotations.reverse.lookup key
  members : (h.object (h.klass c).prototype).properties.names =
    ((entries.map Prod.fst).filter fun key => !Options.startsWithMarker marker key).eraseDups
  statics : (h.object (h.klass c).statics).properties.names =
    ((entries.map Prod.fst).filterMap (Definition.unmarked? marker) ++ ["toString"]).eraseDups
  annotated : (h.object (h.klass c).annotations).properties.names =
    (annotations.map Prod.fst).eraseDups
  /-- The descriptor of the class answers with an annotation for as long as nothing writes it. -/
  described : ∀ es later d key, Trace {} h es later → (later.klass c).descriptor = some d →
    (∀ e ∈ es, ¬ e.Writes (h.klass c).annotations key) →
    later.annotation d key = annotations.reverse.lookup key

/-- A definition in flat form without an initializer comes down to building its class. -/
theorem Setting.defineFlat_apply {σ : Type} {s : Setting σ} {w : World σ} {rt : RuntimeRef}
    {name superclass : String} {entries : List (String × Value)}
    {annotations : Option (List (String × Value))} {d : Definition} {p : ClassRef}
    (parsed : Definition.parse name superclass entries annotations
      (w.heap.runtime rt).options.staticMarker = .ok d)
    (resolved : (w.heap.registryOf rt).resolve d.name d.superclass (w.heap.runtime rt).root = .ok p)
    (plain : d.initializer = none) :
    s.defineFlat rt name superclass entries annotations w =
      some (.ok w.heap.classes.fresh, { w with heap := (Update.buildClass rt d p w.heap).2 }) := by
  rw [Setting.defineFlat_of_read parsed, Setting.defineClass_of_resolved resolved,
    Setting.finishClass_of_none plain]

/-- Entries that were put one after another have the names of the entries. -/
theorem eraseDups_names_putAll (entries : List (String × Value)) :
    ((Named.putAll entries []).map Prod.fst).eraseDups = (entries.map Prod.fst).eraseDups := by
  rw [← PropertyTable.names_ofEntries, PropertyTable.names,
    PropertyTable.toList_ofEntries_of_nodup (Named.nodup_putAll entries), List.map_map,
    ← Named.names_putAll]
  rfl

/-- What a class has that was built from the flat form. -/
theorem declared_of_build {h : Heap} (reached : h.Reached {}) {rt : RuntimeRef} {marker : Char}
    {name superclass : String} {entries : List (String × Value)}
    {annotations : Option (List (String × Value))} {d : Definition} {p : ClassRef}
    (plain : ∀ entry ∈ entries, entry.1 ≠ Definition.marked marker "")
    (parsed : Definition.parse name superclass entries annotations marker = .ok d)
    (allowed : Event.Allowed {} h (.klass rt d p)) :
    Declared (Update.buildClass rt d p h).2 h.classes.fresh name marker entries
      (annotations.getD []) := by
  have klass := Update.buildClass_class rt d p h
  have stocked := Update.stocked_buildClass rt d p (h := h)
  have reached' : (Update.buildClass rt d p h).2.Reached {} := reached.trace (.single allowed)
  have live := Update.isLive_buildClass_fresh rt d p (h := h)
  generalize (Update.buildClass rt d p h).2 = built at *
  obtain rfl : _ = d := Except.ok.inj ((Definition.parse_eq_ok plain ..).symm.trans parsed)
  have annotation : ∀ key,
      built.getOwn (built.klass h.classes.fresh).annotations key =
        (annotations.getD []).reverse.lookup key := stocked.annotations.value
  obtain ⟨f, text, made⟩ := stocked.text
  refine ⟨?_, ?_, ⟨f, by rw [Heap.getOwn, text]; rfl, made⟩, annotation, ?_, ?_,
    stocked.annotations.names, ?_⟩
  · intro key unmarked
    have read := Definition.unmarked?_eq_none_iff.2 unmarked
    refine (stocked.members.value key).trans ?_
    rw [Named.lookup_reverse_putAll, Definition.lookup_reverse_memberEntries read]
  · intro key other
    rw [Heap.getOwn, stocked.static key other, Option.map_map, Named.lookup_reverse_putAll,
      Definition.lookup_reverse_staticEntries]
    exact congrFun Option.map_id _
  · rw [stocked.members.names, eraseDups_names_putAll, Definition.names_memberEntries,
      Definition.isNone_unmarked?]
  · rw [stocked.statics, List.eraseDups_append, eraseDups_names_putAll, Named.names_putAll,
      List.eraseDups_append, ← Definition.names_staticEntries]
    by_cases old : "toString" ∈ (Definition.staticEntries marker entries).map Prod.fst
    · simp [old, List.removeAll]
    · simp [old, List.removeAll, List.eraseDups_cons]
  · intro es later d key trace described unwritten
    have mirror := (reached'.trace trace).spineMirror
    have holder := ((Heap.Reached.closed reached').klass live).annotations
    rw [Heap.annotation, mirror.annotations _ d described, (trace.extends.klass live).annotations,
      Heap.getOwn, trace.ownProperty_eq holder unwritten, ← Heap.getOwn, annotation]

theorem Registry.resolve_isOk {r : Registry} {superclass : String} (name : String) (root : ClassRef)
    (known : superclass = "" ∨ (r.get? superclass).isSome = true) :
    ∃ p, r.resolve name superclass root = .ok p := by
  unfold resolve
  by_cases unnamed : superclass = ""
  · exact ⟨root, if_pos unnamed⟩
  · obtain ⟨p, found⟩ := Option.isSome_iff_exists.1 (known.resolve_left unnamed)
    exact ⟨p, by rw [if_neg unnamed, found]⟩

/-- The descriptor of a class, when it is asked for, answers with these annotations, unless a function
that is called meanwhile writes them. -/
def DescriptorTells {σ : Type} (w : World σ) (c : ClassRef) (annotations : List (String × Value)) :
    Prop :=
  ∀ n rt d w', (Setting.within {} n).perform (.descriptorOf rt c) w = some (.ok d, w') → ∀ key,
    (∀ call ∈ ((Setting.within {} n).logging.perform (.descriptorOf rt c)).callsMade w,
      Heap.SameOwn (w.heap.klass c).annotations key call.before.heap call.after.heap) →
    w'.heap.annotation d key = annotations.reverse.lookup key

section Descriptors

variable {σ : Type} {w w' : World σ} (reached : w.heap.Reached {}) (reached' : w'.heap.Reached {})
  (extended : w.heap.Extends w'.heap) {c : ClassRef} (live : w.heap.classes.isLive c = true)
include reached reached' extended live

/-- The descriptor of a class answers with what the annotations of the class have had since. -/
theorem annotation_of_sameOwn {d : DescriptorRef} (described : (w'.heap.klass c).descriptor = some d)
    {key : String} (same : Heap.SameOwn (w.heap.klass c).annotations key w.heap w'.heap) :
    w'.heap.annotation d key = w.heap.getOwn (w.heap.klass c).annotations key := by
  obtain ⟨_, own⟩ := same (reached.closed.klass live).annotations
  rw [Heap.annotation, reached'.spineMirror.annotations c d described,
    (extended.klass live).annotations, Heap.getOwn, own, Heap.getOwn]

end Descriptors

theorem Declared.tells {σ : Type} {w : World σ} (reached : w.heap.Reached {}) {c : ClassRef}
    {name : String} {marker : Char} {entries annotations : List (String × Value)}
    (declared : Declared w.heap c name marker entries annotations) : DescriptorTells w c annotations := by
  intro n rt d w' run key spared
  have live := (Bool.and_eq_true_iff.1 (Setting.perform_inv run).1).2
  have lawful := within_lawful (σ := σ) {} n
  have kept := lawful.perform reached _ _ w' run
  have same : Heap.SameOwn (w.heap.klass c).annotations key w.heap w'.heap :=
    Setting.perform_keeps reached.closed run rfl (fun _ _ untouched => untouched.sameOwn _ key)
      (fun _ _ _ => .trans) spared
  rw [annotation_of_sameOwn reached kept.holds kept.leads.extended live
    (lawful.perform_meets reached run d rfl) same, declared.annotation]

/-- A definition without a static initializer, with a superclass that is registered, makes a class that
has what is declared, and whose descriptor tells it. -/
def DefinitionsDeclare {σ : Type} (w : World σ) : Prop :=
  ∀ rt name superclass entries annotations n,
    w.heap.runtimes.isLive rt = true → w.heap.hasEntries entries = true →
    w.heap.hasEntries (annotations.getD []) = true →
    (superclass = "" ∨ (w.heap.classNamed rt superclass).isSome = true) →
    (∀ entry ∈ entries,
      entry.1 ≠ Definition.marked (w.heap.runtime rt).options.staticMarker "") →
    ∃ c w', (Setting.within {} n).perform (.defineFlat rt name superclass entries annotations) w =
        some (.ok c, w') ∧
      Declared w'.heap c name (w.heap.runtime rt).options.staticMarker entries
        (annotations.getD []) ∧
      DescriptorTells w' c (annotations.getD [])

theorem definitionsDeclare_of_reached {σ : Type} {w : World σ} (reached : w.heap.Reached {}) :
    DefinitionsDeclare w := by
  intro rt name superclass entries annotations n runtime live noted known plain
  obtain ⟨d, parsed, uninitialized, parent⟩ :
      ∃ d, Definition.parse name superclass entries annotations
          (w.heap.runtime rt).options.staticMarker = .ok d ∧ d.initializer = none ∧
        d.superclass = superclass :=
    ⟨_, Definition.parse_eq_ok plain name superclass annotations, rfl, rfl⟩
  rw [← parent] at known
  obtain ⟨p, resolved⟩ := Registry.resolve_isOk d.name (w.heap.runtime rt).root known
  have allowed : Event.Allowed {} w.heap (.klass rt d p) :=
    ⟨runtime, Heap.hasDefinition_parse live noted parsed, resolved⟩
  have asked : Request.isLive w.heap (.defineFlat rt name superclass entries annotations) = true := by
    simp only [Request.isLive, Bool.and_eq_true]
    exact ⟨⟨runtime, live⟩, noted⟩
  have declared := declared_of_build reached plain parsed allowed
  have reached' : (Update.buildClass rt d p w.heap).2.Reached {} := reached.trace (.single allowed)
  refine ⟨_, { w with heap := (Update.buildClass rt d p w.heap).2 }, ?_, declared,
    declared.tells (w := { w with heap := (Update.buildClass rt d p w.heap).2 }) reached'⟩
  exact (Setting.perform_apply asked rfl).trans (Setting.defineFlat_apply parsed resolved uninitialized)

/-- While the prototypes of metadata classes are spared, the class that a definition makes can be asked
for its descriptor, which answers with the annotations that were declared. -/
def DefinitionsTell {σ : Type} (w : World σ) : Prop :=
  ∀ rt name superclass entries annotations n c w',
    (∀ entry ∈ entries,
      entry.1 ≠ Definition.marked (w.heap.runtime rt).options.staticMarker "") →
    (Setting.within {} n).perform (.defineFlat rt name superclass entries annotations) w =
      some (.ok c, w') →
    ∀ k, ∃ d w'', (Setting.within {} (k + 1)).perform (.descriptorOf rt c) w' = some (.ok d, w'') ∧
      ∀ key, w''.heap.annotation d key = (annotations.getD []).reverse.lookup key

theorem definitionsTell_of_settled {σ : Type} {w : World σ} (settled : w.heap.Settled .sparingMetadata) :
    DefinitionsTell w := by
  intro rt name superclass entries annotations n c w' plain run k
  have reached := Heap.Reached.mono (Watch.le_default .sparingMetadata) settled.reached
  obtain ⟨asked, _, served⟩ := Setting.perform_inv run
  change (Setting.within {} n).defineFlat rt name superclass entries annotations w = _ at served
  simp only [Request.isLive, Bool.and_eq_true] at asked
  obtain ⟨⟨runtime, live⟩, noted⟩ := asked
  obtain ⟨d, parsed, uninitialized⟩ : ∃ d, Definition.parse name superclass entries annotations
      (w.heap.runtime rt).options.staticMarker = .ok d ∧ d.initializer = none :=
    ⟨_, Definition.parse_eq_ok plain name superclass annotations, rfl⟩
  rw [Setting.defineFlat_of_read parsed] at served
  cases resolved : (w.heap.registryOf rt).resolve d.name d.superclass (w.heap.runtime rt).root with
  | error e =>
    rw [Setting.defineClass_of_unresolved resolved] at served
    cases served
  | ok p =>
    rw [Setting.defineClass_of_resolved resolved, Setting.finishClass_of_none uninitialized] at served
    cases served
    have allowed (watch : Watch) : Event.Allowed watch w.heap (.klass rt d p) :=
      ⟨runtime, Heap.hasDefinition_parse live noted parsed, resolved⟩
    have settled' := settled.later (.of_event (allowed .sparingMetadata) trivial)
    have reached' := reached.trace (.single (allowed {}))
    obtain ⟨e, w'', run', outcome⟩ := perform_descriptorOf_succeeds
      (w := { w with heap := (Update.buildClass rt d p w.heap).2 })
      Watch.sparingMetadata_permits Watch.sparingMetadata_spares settled'
      ((Event.extends (allowed {})).runtimes.isLive runtime)
      (Update.isLive_buildClass_fresh rt d p) k
    have declared := declared_of_build reached plain parsed (allowed {})
    refine ⟨e, w'', run', fun key => ?_⟩
    rw [annotation_of_sameOwn reached'
      (Heap.Reached.mono (Watch.le_default .sparingMetadata) outcome.settled.reached) outcome.extended
      (Update.isLive_buildClass_fresh rt d p) outcome.descriptor (outcome.untouched.sameOwn _ key)]
    exact declared.annotation key

/-- At every moment of a run, and wherever else a program can be, no entry that is declared is lost but
a static under the name of the text that every class makes. -/
theorem declarations_kept {σ : Type} (watch : Watch) (depth : Nat) (p : Program σ) (state : σ)
    (count : Nat) :
    (∀ m ∈ p.moments watch depth state count, DefinitionsDeclare m.toWorld) ∧
      (∀ (τ : Type) (w : World τ), Reached watch w → DefinitionsDeclare w) ∧
      ∀ m ∈ p.moments .sparingMetadata depth state count, DefinitionsTell m.toWorld := by
  have declare : ∀ (τ : Type) (w : World τ), Reached watch w → DefinitionsDeclare w :=
    fun _ _ reached =>
      definitionsDeclare_of_reached (Heap.Reached.mono (Watch.le_default watch) reached)
  exact ⟨fun m member => declare σ m.toWorld (Program.sound_of_mem_moments member).reached, declare,
    fun m member => definitionsTell_of_settled (Program.sound_of_mem_moments member).toSettled⟩

/-- Defines a class with a static under the name of the text that every class makes. -/
def declaring : Program Unit := Script.toProgram do
  let rt ← Script.ask (.newRuntime {})
  return .klass (← Script.ask (.defineFlat rt "A" "" [("_toString", .integer 5)] none))

theorem declaring_declares :
    ∃ m ∈ declaring.moments .sparingMetadata 1 () 20, ∃ c w', (Setting.within {} 1).perform
        (.defineFlat ⟨0⟩ "B" "A" [("x", .null), ("_y", .null), ("x", .integer 1)]
          (some [("a", .null), ("a", .integer 2)])) m.toWorld = some (.ok c, w') ∧
      Declared w'.heap c "B" '_' [("x", .null), ("_y", .null), ("x", .integer 1)]
        [("a", .null), ("a", .integer 2)] ∧
      ∃ d w'', (Setting.within {} 2).perform (.descriptorOf ⟨0⟩ c) w' = some (.ok d, w'') ∧
        w''.heap.annotation d "a" = some (.integer 2) := by
  have ends : (declaring.moments .sparingMetadata 1 () 20).any (fun m =>
      m.heap.runtimes.isLive ⟨0⟩ && (m.heap.classNamed ⟨0⟩ "A").isSome &&
      decide ((m.heap.runtime ⟨0⟩).options.staticMarker = '_')) = true := by
    decide +kernel
  obtain ⟨m, member, facts⟩ := List.any_eq_true.1 ends
  simp only [Bool.and_eq_true, decide_eq_true_iff] at facts
  obtain ⟨⟨runtime, registered⟩, marker⟩ := facts
  have unmarked : ∀ entry ∈ [("x", Value.null), ("_y", .null), ("x", .integer 1)],
      entry.1 ≠ Definition.marked (m.heap.runtime ⟨0⟩).options.staticMarker "" := by
    rw [marker]
    decide
  obtain ⟨declare, _, tell⟩ := declarations_kept .sparingMetadata 1 declaring () 20
  obtain ⟨c, w', run, declared, _⟩ := declare m member ⟨0⟩ "B" "A"
    [("x", .null), ("_y", .null), ("x", .integer 1)] (some [("a", .null), ("a", .integer 2)]) 1
    runtime rfl rfl (Or.inr registered) unmarked
  obtain ⟨d, w'', described, told⟩ := tell m member _ _ _ _ _ _ _ _ unmarked run 1
  rw [marker] at declared
  exact ⟨m, member, c, w', run, declared, d, w'', described, told "a"⟩

/-- The class is defined, but under the name of its static stands the function that makes the text
of the class. -/
theorem declaring_loses_static :
    ∃ m ∈ declaring.moments {} 1 () 20, ∃ c f, m.heap.classNamed ⟨0⟩ "A" = some c ∧
      ([("_toString", Value.integer 5)] : List (String × Value)).reverse.lookup
        (Definition.marked (m.heap.runtime ⟨0⟩).options.staticMarker "toString") =
          some (.integer 5) ∧
      m.heap.getOwn (m.heap.klass c).statics "toString" = some (.function f) ∧
      (m.heap.function f).code = .builtin (.classToString "A") := by
  have ends : (declaring.moments {} 1 () 20).any (fun m =>
      decide ((m.heap.runtime ⟨0⟩).options.staticMarker = '_') &&
      decide (m.heap.classNamed ⟨0⟩ "A" = some ⟨2⟩) &&
      decide (m.heap.getOwn (m.heap.klass ⟨2⟩).statics "toString" = some (.function ⟨16⟩)) &&
      decide ((m.heap.function ⟨16⟩).code = .builtin (.classToString "A"))) = true := by
    decide +kernel
  obtain ⟨m, member, facts⟩ := List.any_eq_true.1 ends
  simp only [Bool.and_eq_true, decide_eq_true_iff] at facts
  obtain ⟨⟨⟨marker, registered⟩, text⟩, code⟩ := facts
  exact ⟨m, member, ⟨2⟩, ⟨16⟩, registered, by rw [marker]; decide, text, code⟩

end ProtoClass
