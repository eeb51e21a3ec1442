import Mathlib.Control.Monad.Basic
import ProtoClass.Proofs.Surfaces
import ProtoClass.Proofs.Widening

set_option autoImplicit false

/- Members of strings are looked for on the prototype of their host type. Building a runtime installs
the tests of prefixes and suffixes there; the hash code is left out, because the root prototype, to
which that prototype delegates, has one already. So the tests stay as they are whatever is written to
the root prototype, and the hash code of strings is what the root prototype has for it. -/
namespace ProtoClass

/-- The prototype of strings has the tests of prefixes and suffixes, and leaves all else to the root
prototype. -/
structure StringSurface (h : Heap) (rt : RuntimeRef) (host : HostType) : Prop where
  hosted : h.hostNamed rt "String" = some host
  live : h.objects.isLive host.prototype = true
  link : (h.object host.prototype).prototype = some (h.rootPrototype rt)
  startsWith : ∃ f, h.functions.isLive f = true ∧
    h.getOwn host.prototype "startsWith" = some (.function f) ∧
      (h.function f).code = .builtin .stringStartsWith
  endsWith : ∃ f, h.functions.isLive f = true ∧
    h.getOwn host.prototype "endsWith" = some (.function f) ∧
      (h.function f).code = .builtin .stringEndsWith
  others : ∀ name, name ≠ "startsWith" → name ≠ "endsWith" → h.getOwn host.prototype name = none

/-- The surface is still there while the prototype of strings keeps its properties. -/
theorem StringSurface.later {h h' : Heap} {rt : RuntimeRef} {host : HostType}
    (surface : StringSurface h rt host) (closed : h.Closed) (extended : h.Extends h')
    (runtime : h.runtimes.isLive rt = true)
    (same : (h'.object host.prototype).properties = (h.object host.prototype).properties) :
    StringSurface h' rt host := by
  have own : ∀ name, h'.getOwn host.prototype name = h.getOwn host.prototype name := by
    intro name
    rw [Heap.getOwn, Heap.ownProperty, same, Heap.getOwn, Heap.ownProperty]
  have member : ∀ {name : String} {b : Builtin}, (∃ f, h.functions.isLive f = true ∧
      h.getOwn host.prototype name = some (.function f) ∧ (h.function f).code = .builtin b) →
      ∃ f, h'.functions.isLive f = true ∧ h'.getOwn host.prototype name = some (.function f) ∧
        (h'.function f).code = .builtin b := by
    rintro name b ⟨f, live, found, code⟩
    exact ⟨f, extended.functions.isLive live, (own name).trans found,
      (extended.function live).code.trans code⟩
  refine ⟨extended.hostNamed runtime surface.hosted, extended.objects.isLive surface.live, ?_,
    member surface.startsWith, member surface.endsWith, ?_⟩
  · rw [(extended.object surface.live).prototype, extended.rootPrototype closed runtime]
    exact surface.link
  · exact fun name first second => (own name).trans (surface.others name first second)

/-- Where the root is not called like the host type of strings, the prototype of strings is an object of
its own. -/
theorem Surfaces.stringSurface {h : Heap} {rt : RuntimeRef} {host : HostType}
    (surfaces : Surfaces h rt host) (other : (h.runtime rt).options.rootName ≠ "String") :
    StringSurface h rt host := by
  obtain ⟨link, missing⟩ := surfaces.apart other
  constructor
  case hosted => exact surfaces.hosted
  case live => exact surfaces.live
  case link => exact link
  case startsWith => exact (surfaces.tests ("startsWith", .stringStartsWith) (by decide)).getOwn
  case endsWith => exact (surfaces.tests ("endsWith", .stringEndsWith) (by decide)).getOwn
  case others =>
    intro name first second
    exact missing name (by simp [stringTests, first, second])

/-- Does a watch rule out that a program writes to the prototype of the strings of a runtime? -/
def Watch.SparesStrings (watch : Watch) (rt : RuntimeRef) : Prop :=
  ∀ h o host, watch.mayWrite h o = true → h.hostNamed rt "String" = some host → o ≠ host.prototype

/-- A runtime that was built has the surface of strings for as long as programs spare it. -/
theorem Heap.Built.stringSurface {watch : Watch} {h : Heap} {rt : RuntimeRef}
    (built : h.Built watch rt) (spares : watch.SparesStrings rt)
    (other : (h.runtime rt).options.rootName ≠ "String") : ∃ host, StringSurface h rt host := by
  obtain ⟨options, h₀, from₀⟩ := built
  obtain rfl := from₀.made
  obtain ⟨h₁, host, closed, runtime, surfaces, rest⟩ :=
    buildRuntime_surfaces watch options from₀.reached.closed
  have passage := rest.trans from₀.since
  rw [(passage.extended.runtime runtime).options] at other
  have surface := surfaces.stringSurface other
  refine ⟨host, surface.later closed passage.extended runtime ?_⟩
  refine passage.properties_eq surface.live fun later extended write => ?_
  exact spares later _ host write (extended.hostNamed runtime surface.hosted) rfl

/-- What a string remembers is its content hash. -/
def Heap.Hashed (h : Heap) : Prop :=
  ∀ s n, (h.string s).hash = some n → n = contentHash (h.string s).units

theorem Event.hashed {watch : Watch} {h : Heap} {e : Event} (hashed : h.Hashed)
    (allowed : e.Allowed watch h) : (e.apply h).Hashed := by
  intro s n remembered
  cases e with
  | string units =>
    rw [apply, Update.newString, Heap.string, Arena.get_add] at remembered ⊢
    split at remembered
    · cases remembered
    · next old =>
      rw [if_neg old]
      exact hashed s n remembered
  | hash t =>
    rw [apply, Update.hashOf_apply] at remembered ⊢
    cases found : (h.string t).hash with
    | some _ =>
      rw [found] at remembered
      exact hashed s n remembered
    | none =>
      rw [found] at remembered
      dsimp only at remembered ⊢
      rw [Heap.string, Arena.get_modify (show h.strings.isLive t = true from allowed)]
        at remembered ⊢
      split at remembered
      · next same =>
        rw [if_pos same, ← Option.some.inj remembered]
        rfl
      · next other =>
        rw [if_neg other]
        exact hashed s n remembered
  | _ =>
    rw [Heap.string, (frame _ h).strings (by simp [footprint])] at remembered ⊢
    exact hashed s n remembered

theorem Heap.Reached.hashed {watch : Watch} {h : Heap} (reached : h.Reached watch) : h.Hashed := by
  refine reached.invariant ?_ fun _ _ before allowed => Event.hashed before allowed
  intro s n remembered
  rw [Heap.string, Arena.get_of_not_isLive (by rw [Arena.isLive_iff]; exact Nat.not_lt_zero _)]
    at remembered
  cases remembered

/-- The answer of a test of a string with the argument that it is given. -/
def Heap.testAnswer (h : Heap) (test : List UInt16 → List UInt16 → Bool) (context : String)
    (missing : TypeError) (s : StringRef) (args : List Value) : Except Error Value :=
  match args.head? with
  | none => .error (.typeError missing)
  | some arg => (expectString context arg).map fun t =>
    .boolean (test (h.string s).units (h.string t).units)

section Members

variable {σ : Type} {w : World σ} {rt : RuntimeRef}

/-- Members of strings answer with what is built in for strings; all others are left to the root
prototype. -/
structure StringMembers (w : World σ) (rt : RuntimeRef) : Prop where
  startsWith : ∀ n s args, w.heap.strings.isLive s = true → args.all w.heap.hasValue = true →
    (Setting.within {} (n + 1)).perform (.invoke rt (.string s) "startsWith" args) w =
      some (w.heap.testAnswer Utf16.startsWith "String.startsWith" .missingPrefix s args, w)
  endsWith : ∀ n s args, w.heap.strings.isLive s = true → args.all w.heap.hasValue = true →
    (Setting.within {} (n + 1)).perform (.invoke rt (.string s) "endsWith" args) w =
      some (w.heap.testAnswer Utf16.endsWith "String.endsWith" .missingSuffix s args, w)
  others : ∀ s name, name ≠ "startsWith" → name ≠ "endsWith" →
    w.heap.lookup rt (.string s) name = w.heap.get (w.heap.rootPrototype rt) name
  /-- The hash code is that of the content while the root prototype has its own function for it. -/
  hashCode : ∀ f, w.heap.get (w.heap.rootPrototype rt) "hashCode" = some (.function f) →
    (w.heap.function f).code = .builtin .objectHashCode →
    ∀ n s args, w.heap.strings.isLive s = true → args.all w.heap.hasValue = true → ∃ w',
      (Setting.within {} (n + 1)).perform (.invoke rt (.string s) "hashCode" args) w =
        some (.ok (.integer (contentHash (w.heap.string s).units)), w')

theorem stringArguments_apply (context : String) (missing : TypeError) (s : StringRef)
    (args : List Value) (test : List UInt16 → List UInt16 → Bool) :
    ((Setting.stringArguments context missing (.string s) args : Action σ _) >>= fun both =>
        (pure (.boolean (test both.1 both.2)) : Action σ Value)) w =
      some (w.heap.testAnswer test context missing s args, w) := by
  unfold Setting.stringArguments Heap.testAnswer
  cases args.head? with
  | none => rfl
  | some arg => cases arg <;> rfl

/-- The member that a string sees is called with the string. -/
theorem perform_stringMember (runtime : w.heap.runtimes.isLive rt = true) {s : StringRef}
    (string : w.heap.strings.isLive s = true) {args : List Value}
    (live : args.all w.heap.hasValue = true) {name : String} {f : FunctionRef} {b : Builtin}
    (found : w.heap.lookup rt (.string s) name = some (.function f))
    (code : (w.heap.function f).code = .builtin b) (n : Nat) :
    (Setting.within {} (n + 1)).perform (.invoke rt (.string s) name args) w =
      (Setting.within {} n).runBuiltin b rt (.string s) args w := by
  have permitted : (Request.invoke rt (.string s) name args).isLive w.heap = true := by
    rw [Request.isLive, runtime, live, show w.heap.hasValue (.string s) = true from string]
    rfl
  refine (if_pos (Bool.and_eq_true_iff.2 ⟨permitted, rfl⟩)).trans ?_
  exact (Setting.invoke_apply found args).trans (call_builtin code rt _ args)

theorem hashOf_answer (hashed : w.heap.Hashed) (s : StringRef) :
    (Update.hashOf s w.heap).1 = contentHash (w.heap.string s).units := by
  rw [Update.hashOf_apply]
  cases remembered : (w.heap.string s).hash with
  | none => rfl
  | some n => exact hashed s n remembered

theorem stringMembers_of_surface (closed : w.heap.Closed) (hashed : w.heap.Hashed)
    (runtime : w.heap.runtimes.isLive rt = true) {host : HostType}
    (surface : StringSurface w.heap rt host) : StringMembers w rt := by
  have source : ∀ s, w.heap.memberSource rt (.string s) = host.prototype := by
    intro s
    rw [Heap.memberSource, surface.hosted]
  have own : ∀ s {name : String} {f : FunctionRef},
      w.heap.getOwn host.prototype name = some (.function f) →
      w.heap.lookup rt (.string s) name = some (.function f) := by
    intro s name f found
    rw [Heap.lookup, source]
    exact Heap.get_of_getOwn found
  have others : ∀ s name, name ≠ "startsWith" → name ≠ "endsWith" →
      w.heap.lookup rt (.string s) name = w.heap.get (w.heap.rootPrototype rt) name := by
    intro s name first second
    rw [Heap.lookup, source]
    exact closed.get_of_missing surface.link (surface.others name first second)
  refine ⟨?_, ?_, others, ?_⟩
  · intro n s args string live
    obtain ⟨f, _, found, code⟩ := surface.startsWith
    exact (perform_stringMember runtime string live (own s found) code n).trans
      (stringArguments_apply _ _ s args _)
  · intro n s args string live
    obtain ⟨f, _, found, code⟩ := surface.endsWith
    exact (perform_stringMember runtime string live (own s found) code n).trans
      (stringArguments_apply _ _ s args _)
  · intro f found code n s args string live
    have seen := (others s "hashCode" (by decide) (by decide)).trans found
    refine ⟨{ w with heap := (Update.hashOf s w.heap).2 }, ?_⟩
    rw [← hashOf_answer hashed s]
    exact perform_stringMember runtime string live seen code n

end Members

/-- As long as programs spare the prototype of strings of a runtime whose root has another name, its
strings answer tests of prefixes and suffixes with what is built in at every moment of a run, whatever
the root prototype has; the hash code is not among these members. -/
theorem string_tests_last {σ : Type} {watch : Watch} {rt : RuntimeRef} (spares : watch.SparesStrings rt)
    (depth : Nat) (p : Program σ) (state : σ) (count : Nat) :
    ∀ m ∈ p.moments watch depth state count, m.heap.runtimes.isLive rt = true →
      (m.heap.runtime rt).options.rootName ≠ "String" → StringMembers m.toWorld rt := by
  intro m member runtime other
  have sound := Program.sound_of_mem_moments member
  obtain ⟨host, surface⟩ := (sound.built rt runtime).stringSurface spares other
  exact stringMembers_of_surface sound.reached.closed sound.reached.hashed runtime surface

/-- The watch under which programs may do anything but write to the prototype of the strings of a
runtime. -/
def Watch.sparingStrings (rt : RuntimeRef) : Watch :=
  forbidding fun h o => (h.hostNamed rt "String").any (fun host => o = host.prototype) = true

theorem Watch.sparingStrings_spares (rt : RuntimeRef) : (sparingStrings rt).SparesStrings rt := by
  rintro h o host write hosted rfl
  refine mayWrite_forbidding.1 write ?_
  rw [hosted]
  exact decide_eq_true rfl

/-- Puts another hash code and other tests on the root prototype and makes strings. -/
def overriding : Program Unit := Script.toProgram do
  let _ ← Script.ask (.newRuntime {})
  let f ← Script.newFunction "f" fun _ _ _ => .done (.ok (.integer 42))
  let _ ← Script.ask (.set ⟨0⟩ "hashCode" (.function f))
  let _ ← Script.ask (.set ⟨0⟩ "startsWith" (.function f))
  let _ ← Script.ask (.newString (Utf16.encode "abc"))
  return .string (← Script.ask (.newString (Utf16.encode "ab")))

theorem overriding_tests :
    (Watch.sparingStrings ⟨0⟩).SparesStrings ⟨0⟩ ∧
      ∃ m ∈ overriding.moments (.sparingStrings ⟨0⟩) 2 () 20,
        m.heap.runtimes.isLive ⟨0⟩ = true ∧ (m.heap.runtime ⟨0⟩).options.rootName ≠ "String" ∧
        m.heap.get (m.heap.rootPrototype ⟨0⟩) "startsWith" = some (.function ⟨16⟩) ∧
        (Setting.within {} 1).perform (.invoke ⟨0⟩ (.string ⟨0⟩) "startsWith" [.string ⟨1⟩])
          m.toWorld = some (.ok (.boolean true), m.toWorld) := by
  have ends : (overriding.moments (.sparingStrings ⟨0⟩) 2 () 20).any (fun m =>
      m.heap.runtimes.isLive ⟨0⟩ && decide ((m.heap.runtime ⟨0⟩).options.rootName ≠ "String") &&
      decide (m.heap.get (m.heap.rootPrototype ⟨0⟩) "startsWith" = some (.function ⟨16⟩)) &&
      decide (m.heap.strings.isLive ⟨0⟩ = true) && decide (m.heap.strings.isLive ⟨1⟩ = true) &&
      Utf16.startsWith (m.heap.string ⟨0⟩).units (m.heap.string ⟨1⟩).units) = true := by
    decide +kernel
  obtain ⟨m, member, facts⟩ := List.any_eq_true.1 ends
  simp only [Bool.and_eq_true, decide_eq_true_iff] at facts
  obtain ⟨⟨⟨⟨⟨runtime, other⟩, seen⟩, string⟩, start⟩, begins⟩ := facts
  have members := string_tests_last (Watch.sparingStrings_spares ⟨0⟩) 2 overriding () 20 m member
    runtime other
  have args : [Value.string ⟨1⟩].all m.heap.hasValue = true := Bool.and_eq_true_iff.2 ⟨start, rfl⟩
  refine ⟨Watch.sparingStrings_spares ⟨0⟩, m, member, runtime, other, seen, ?_⟩
  rw [members.startsWith 0 ⟨0⟩ _ string args]
  exact congrArg (fun answer => some (Except.ok (Value.boolean answer), m.toWorld)) begins

/-- Puts another hash code on the root prototype and asks a string for its own. -/
def rehashing : Program Unit := Script.toProgram do
  let rt ← Script.ask (.newRuntime {})
  let f ← Script.newFunction "hashCode" fun _ _ _ => .done (.ok (.integer 42))
  let _ ← Script.ask (.set ⟨0⟩ "hashCode" (.function f))
  let s ← Script.ask (.newString (Utf16.encode "abc"))
  Script.ask (.invoke rt (.string s) "hashCode" [])

/-- The program spares the prototype of strings, and yet the string has not the hash of its content. -/
theorem rehashing_is_overridden :
    ({} : Options).validate = .ok () ∧ ({} : Options).rootName ≠ "String" ∧
      contentHash (Utf16.encode "abc") = 96354 ∧
      ∃ w, (Setting.within (.sparingStrings ⟨0⟩) 2).run rehashing { state := () } =
        some (.ok (.integer 42), w) := by
  have answers : ((Setting.within (.sparingStrings ⟨0⟩) 2).run rehashing { state := () }).map
      Prod.fst = some (.ok (.integer 42)) := by
    decide +kernel
  obtain ⟨⟨outcome, w⟩, run, rfl⟩ := Option.map_eq_some_iff.1 answers
  exact ⟨Options.validate_eq_ok_iff.2 (by decide +kernel), by decide, by decide +kernel, w, run⟩

end ProtoClass
