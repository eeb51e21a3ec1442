import Mathlib.Control.Monad.Basic
import ProtoClass.Proofs.Calls
import ProtoClass.Proofs.Defining
import ProtoClass.Proofs.FlatForm
import ProtoClass.Proofs.Moment

set_option autoImplicit false

/- The name of a constructor variant is the constructor prefix followed by the text of a selector. In
the flat form of a definition it stands for an instance member as long as it does not begin with the
static marker. Acceptable options see to that through the prefix; only an empty prefix leaves it to
the selector. -/
namespace ProtoClass

namespace Options

theorem prefix_unmarked {options : Options} (valid : options.validate = .ok ()) :
    startsWithMarker options.staticMarker options.constructorPrefix = false := by
  rw [validate_eq_ok_iff, fault?] at valid
  by_cases marked : startsWithMarker options.staticMarker options.constructorPrefix = true
  · repeat' split at valid
    all_goals simp_all
  · exact Bool.eq_false_iff.2 marked

/-- With acceptable options a name that begins with the constructor prefix begins with the marker
only when the prefix is empty and what follows begins with the marker. -/
theorem startsWithMarker_append {options : Options} (valid : options.validate = .ok ())
    (text : String) :
    startsWithMarker options.staticMarker (options.constructorPrefix ++ text) = false ↔
      options.constructorPrefix ≠ "" ∨ startsWithMarker options.staticMarker text = false := by
  have first := prefix_unmarked valid
  by_cases empty : options.constructorPrefix = ""
  · simp [empty]
  · simp only [startsWithMarker, String.toList_append] at first ⊢
    cases chars : options.constructorPrefix.toList with
    | nil => exact absurd (String.toList_eq_nil_iff.1 chars) empty
    | cons c rest =>
      rw [chars] at first
      exact ⟨fun _ => Or.inl empty, fun _ => first⟩

end Options

section Later

variable {h h' : Heap} (extended : h.Extends h')
include extended

/-- The text of a value stays the same. -/
theorem Heap.Extends.display {v : Value} (live : h.hasValue v = true) :
    h'.display v = h.display v := by
  cases v with
  | string s => exact congrArg Utf16.decode (extended.string live).units
  | function f => exact congrArg ("function " ++ ·) (extended.function live).name
  | klass c => exact congrArg ("Class " ++ ·) (extended.klass live).name
  | _ => rfl

theorem Heap.Extends.variant {rt : RuntimeRef} (runtime : h.runtimes.isLive rt = true) {v : Value}
    (live : h.hasValue v = true) : h'.variant rt v = h.variant rt v := by
  rw [Heap.variant, Heap.variant, extended.display live, (extended.runtime runtime).options]

end Later

section Defining

variable {σ : Type}

/-- What the definition of a class leaves of a function that stands under the key of a constructor
variant: the class as it was built, before its static initializer was called. -/
structure VariantDefined (s : Setting σ) (w : World σ) (rt : RuntimeRef) (v : Value) (f : FunctionRef)
    (d : Definition) (c : ClassRef) (built : Heap) (w' : World σ) : Prop where
  /-- The key is that of an instance member: neither of a static nor of the initializer. -/
  read : ∀ d value, Definition.addEntry (w.heap.runtime rt).options.staticMarker d
    (w.heap.variant rt v, value) = .ok (d.member (w.heap.variant rt v) value)
  member : d.members.lookup (w.heap.variant rt v) = some (.function f)
  own : built.getOwn (built.klass c).prototype (w.heap.variant rt v) = some (.function f)
  uninitialized : d.initializer = none → w' = { w with heap := built }
  initialized : ∀ g, d.initializer = some g →
    ∃ answer, s.call g rt (.klass c) [] { w with heap := built } = some (.ok answer, w')
  /-- While the prototype has the function, constructing with the selector calls it on the instance
  with the other arguments. -/
  constructs : ∀ (t : Setting σ) (later : World σ) (args : List Value), built.Extends later.heap →
    later.heap.getOwn (built.klass c).prototype (w.heap.variant rt v) = some (.function f) →
    args.getLast? = some v →
      t.construct rt c args later =
        (t.call f rt (.object later.heap.objects.fresh) args.dropLast >>= fun _ =>
            (pure later.heap.objects.fresh : Action σ ObjectRef))
          { later with heap :=
              (Update.newObject (some (built.klass c).prototype) later.heap).2 }

/-- A finished definition was read, and its class built, before its initializer was called. -/
theorem defineFlat_inv {s : Setting σ} {w w' : World σ} {rt : RuntimeRef} {name superclass : String}
    {entries : List (String × Value)} {annotations : Option (List (String × Value))} {c : ClassRef}
    (run : s.defineFlat rt name superclass entries annotations w = some (.ok c, w')) :
    ∃ d p, Definition.parse name superclass entries annotations
        (w.heap.runtime rt).options.staticMarker = .ok d ∧
      (w.heap.registryOf rt).resolve d.name d.superclass (w.heap.runtime rt).root = .ok p ∧
      c = w.heap.classes.fresh ∧
      (d.initializer = none → w' = { w with heap := (Update.buildClass rt d p w.heap).2 }) ∧
      ∀ g, d.initializer = some g → ∃ answer, s.call g rt (.klass c) []
        { w with heap := (Update.buildClass rt d p w.heap).2 } = some (.ok answer, w') := by
  cases parsed : Definition.parse name superclass entries annotations
      (w.heap.runtime rt).options.staticMarker with
  | error e =>
    rw [Setting.defineFlat_of_unread parsed] at run
    cases run
  | ok d =>
    rw [Setting.defineFlat_of_read parsed] at run
    cases resolved : (w.heap.registryOf rt).resolve d.name d.superclass (w.heap.runtime rt).root with
    | error e =>
      rw [Setting.defineClass_of_unresolved resolved] at run
      cases run
    | ok p =>
      rw [Setting.defineClass_of_resolved resolved] at run
      refine ⟨d, p, rfl, resolved, ?_⟩
      rcases Setting.finishClass_inv run with
        ⟨plain, given, same⟩ | ⟨f, initialized, ⟨answer, called, given⟩ | ⟨e, _, wrong⟩⟩
      · cases given
        exact ⟨rfl, fun _ => same, fun g set => nomatch plain.symm.trans set⟩
      · cases given
        refine ⟨rfl, fun unset => (nomatch initialized.symm.trans unset), fun g set => ?_⟩
        cases initialized.symm.trans set
        exact ⟨answer, called⟩
      · cases wrong

/-- What the definition of a class with a constructor variant leaves. -/
theorem variantDefined_of_defineFlat {s : Setting σ} {w w' : World σ} {rt : RuntimeRef}
    (runtime : w.heap.runtimes.isLive rt = true) {v : Value} (live : w.heap.hasValue v = true)
    (unmarked : Definition.unmarked? (w.heap.runtime rt).options.staticMarker (w.heap.variant rt v) =
      none) {name superclass : String} {entries : List (String × Value)}
    {annotations : Option (List (String × Value))} (there : w.heap.hasEntries entries = true)
    (noted : w.heap.hasEntries (annotations.getD []) = true) {f : FunctionRef}
    (last : entries.reverse.lookup (w.heap.variant rt v) = some (.function f)) {c : ClassRef}
    (run : s.defineFlat rt name superclass entries annotations w = some (.ok c, w')) :
    ∃ d built, Definition.parse name superclass entries annotations
        (w.heap.runtime rt).options.staticMarker = .ok d ∧ VariantDefined s w rt v f d c built w' := by
  obtain ⟨d, p, parsed, resolved, rfl, uninitialized, initialized⟩ := defineFlat_inv run
  obtain ⟨distinct, found⟩ := Definition.parse_members parsed
  have member := (found _ unmarked).trans last
  have allowed : Event.Allowed {} w.heap (.klass rt d p) :=
    ⟨runtime, Heap.hasDefinition_parse there noted parsed, resolved⟩
  have extended : w.heap.Extends (Update.buildClass rt d p w.heap).2 := Event.extends allowed
  have klass := Update.buildClass_class rt d p w.heap
  have object := Update.buildClass_prototype rt d p w.heap
  have own : (Update.buildClass rt d p w.heap).2.getOwn w.heap.objects.fresh (w.heap.variant rt v) =
      some (.function f) := by
    obtain ⟨before, after, split, _⟩ := List.lookup_eq_some_iff.1 member
    have among : (w.heap.variant rt v, Value.function f) ∈ d.members := by
      rw [split]
      exact List.mem_append_right _ List.mem_cons_self
    rw [Heap.getOwn, Heap.ownProperty, object, PropertyTable.get?_ofEntries_of_mem distinct among]
    rfl
  refine ⟨d, (Update.buildClass rt d p w.heap).2, parsed, ?_, member, ?_, uninitialized, initialized,
    ?_⟩
  · intro d value
    rw [Definition.addEntry, unmarked]
  · rw [klass]
    exact own
  · intro t later args extended' still chosen
    have same := (extended.trans extended').variant runtime live
    have kept := (extended'.klass (c := w.heap.classes.fresh) (by
      rw [Update.buildClass_apply]
      simp)).prototype
    rw [← kept] at still ⊢
    refine Setting.construct_apply chosen ?_
    rw [same]
    exact Heap.get_of_getOwn still

end Defining

/-- At every moment of a run a definition gives its class the constructor variants that it has keys
for, unless the constructor prefix is empty and the text of the selector begins with the static
marker. -/
theorem constructors_are_members {σ : Type} (watch : Watch) (depth : Nat) (p : Program σ) (state : σ)
    (count : Nat) :
    ∀ m ∈ p.moments watch depth state count, ∀ rt v, m.heap.runtimes.isLive rt = true →
      m.heap.hasValue v = true →
      (Definition.unmarked? (m.heap.runtime rt).options.staticMarker (m.heap.variant rt v) = none ↔
        (m.heap.runtime rt).options.constructorPrefix ≠ "" ∨
          Options.startsWithMarker (m.heap.runtime rt).options.staticMarker (m.heap.display v) =
            false) ∧
      (Definition.unmarked? (m.heap.runtime rt).options.staticMarker (m.heap.variant rt v) = none →
        ∀ watch' n name superclass entries annotations f c w',
          entries.reverse.lookup (m.heap.variant rt v) = some (.function f) →
          (Setting.within watch' n).perform (.defineFlat rt name superclass entries annotations)
            m.toWorld = some (.ok c, w') →
          ∃ d built, Definition.parse name superclass entries annotations
              (m.heap.runtime rt).options.staticMarker = .ok d ∧
            VariantDefined (Setting.within watch' n) m.toWorld rt v f d c built w') := by
  intro m member rt v runtime live
  have sound := Program.sound_of_mem_moments member
  obtain ⟨valid, _⟩ := (sound.built rt runtime).metadata
  refine ⟨Definition.unmarked?_eq_none_iff.trans (Options.startsWithMarker_append valid _), ?_⟩
  intro unmarked watch' n name superclass entries annotations f c w' last run
  obtain ⟨asked, _, served⟩ := Setting.perform_inv run
  simp only [Request.isLive, Bool.and_eq_true] at asked
  exact variantDefined_of_defineFlat (w := m.toWorld) runtime live unmarked asked.1.2 asked.2 last
    served

/-- Opens a runtime whose constructor prefix is a word, and makes a function. -/
def prefixing : Program Unit := Script.toProgram do
  let _ ← Script.ask (.newRuntime { constructorPrefix := "init" })
  return .function (← Script.newFunction "init1" fun _ _ _ => .done (.ok .undefined))

theorem prefixing_constructs :
    ∃ m ∈ prefixing.moments {} 2 () 20, m.heap.runtimes.isLive ⟨0⟩ = true ∧
      m.heap.variant ⟨0⟩ (.integer 1) = "init1" ∧
      ∃ c w' d built, (Setting.within {} 1).perform
          (.defineFlat ⟨0⟩ "A" "" [("init1", .null), ("_x", .null), ("init1", .function ⟨16⟩)] none)
          m.toWorld = some (.ok c, w') ∧
        VariantDefined (Setting.within {} 1) m.toWorld ⟨0⟩ (.integer 1) ⟨16⟩ d c built w' := by
  have ends : (prefixing.moments {} 2 () 20).any (fun m =>
      m.heap.runtimes.isLive ⟨0⟩ &&
      decide ((m.heap.runtime ⟨0⟩).options = { constructorPrefix := "init" }) &&
      decide (m.heap.variant ⟨0⟩ (.integer 1) = "init1") &&
      ((Setting.within {} 1).perform
        (.defineFlat ⟨0⟩ "A" "" [("init1", .null), ("_x", .null), ("init1", .function ⟨16⟩)] none)
        m.toWorld).any fun outcome => outcome.1.isOk) = true := by
    decide +kernel
  obtain ⟨m, member, facts⟩ := List.any_eq_true.1 ends
  rw [Bool.and_eq_true, Bool.and_eq_true, Bool.and_eq_true, Option.any_eq_true, decide_eq_true_iff,
    decide_eq_true_iff] at facts
  obtain ⟨⟨⟨runtime, options⟩, variant⟩, ⟨outcome, w'⟩, run, ok⟩ := facts
  cases outcome with
  | error => cases ok
  | ok c =>
    obtain ⟨reads, defines⟩ :=
      constructors_are_members {} 2 prefixing () 20 m member ⟨0⟩ (.integer 1) runtime rfl
    have unmarked := reads.2 (Or.inl (by rw [options]; decide))
    obtain ⟨d, built, _, defined⟩ := defines unmarked {} 1 _ _ _ _ ⟨16⟩ c w' (by rw [variant]; rfl) run
    exact ⟨m, member, runtime, variant, c, w', d, built, run, defined⟩

/-- Defines a class with a function under a key that is the constructor variant of a selector, where
the constructor prefix is empty and the selector begins with the static marker, and constructs. -/
def marking : Program Unit := Script.toProgram do
  let rt ← Script.ask (.newRuntime { constructorPrefix := "" })
  let selector ← Script.ask (.newString (Utf16.encode "_x"))
  let f ← Script.newFunction "_x" fun _ _ _ => .done (.ok .undefined)
  let c ← Script.ask (.defineFlat rt "A" "" [("_x", .function f)] none)
  return .object (← Script.ask (.construct rt c [.string selector]))

/-- The options are acceptable and the class is defined, but the function has become a static, and
constructing fails. -/
theorem marking_constructs_nothing :
    ({ constructorPrefix := "" } : Options).validate = .ok () ∧
      (∃ m ∈ marking.moments {} 2 () 20, m.heap.variant ⟨0⟩ (.string ⟨0⟩) = "_x" ∧
        m.heap.classNamed ⟨0⟩ "A" = some ⟨2⟩ ∧
        m.heap.getOwn (m.heap.klass ⟨2⟩).prototype "_x" = none ∧
        m.heap.getOwn (m.heap.klass ⟨2⟩).statics "x" = some (.function ⟨16⟩)) ∧
      ∃ w, marking.run 2 { state := () } = some (.error (.noSuchConstructor "A" "_x"), w) := by
  have fails : (marking.run 2 { state := () }).map Prod.fst =
      some (.error (.noSuchConstructor "A" "_x")) := by
    decide +kernel
  have ends : (marking.moments {} 2 () 20).any (fun m =>
      decide (m.heap.variant ⟨0⟩ (.string ⟨0⟩) = "_x") &&
      decide (m.heap.classNamed ⟨0⟩ "A" = some ⟨2⟩) &&
      decide (m.heap.getOwn (m.heap.klass ⟨2⟩).prototype "_x" = none) &&
      decide (m.heap.getOwn (m.heap.klass ⟨2⟩).statics "x" = some (.function ⟨16⟩))) = true := by
    decide +kernel
  obtain ⟨m, member, facts⟩ := List.any_eq_true.1 ends
  simp only [Bool.and_eq_true, decide_eq_true_iff] at facts
  obtain ⟨⟨outcome, w⟩, run, rfl⟩ := Option.map_eq_some_iff.1 fails
  exact ⟨Options.validate_eq_ok_iff.2 (by decide +kernel),
    ⟨m, member, facts.1.1.1, facts.1.1.2, facts.1.2, facts.2⟩, w, run⟩

end ProtoClass
