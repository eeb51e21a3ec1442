import ProtoClass.Proofs.StringSurface

set_option autoImplicit false

/- A runtime starts with exactly the options that are acceptable, whatever names they give. Between its
opening and the building of its metadata class only objects, functions and host types are made, so its
classes, its registry and its counter can be read off from these two ends. Strings answer by their
content, be their prototype an object of its own or that of the root. -/
namespace ProtoClass

/-- A bind that succeeds is of two parts that succeed. -/
theorem bind_ok_inv {α β : Type} {x : Except Error α} {f : α → Except Error β} {b : β}
    (bound : (x >>= f) = .ok b) : ∃ a, x = .ok a ∧ f a = .ok b := by
  cases x with
  | error e => cases bound
  | ok a => exact ⟨a, rfl, bound⟩

/-- Configuration text gives only acceptable options, whatever parser reads it. -/
theorem Options.validate_of_ofText {parse : String → Option Toml.Entries} {text : String}
    {options : Options} (read : ofText parse text = .ok options) : options.validate = .ok () := by
  unfold ofText at read
  dsimp only at read
  cases parsed : parse text with
  | none =>
    rw [parsed] at read
    cases read
  | some entries =>
    rw [parsed] at read
    obtain ⟨_, _, given⟩ := bind_ok_inv read
    obtain ⟨o, _, checked⟩ := bind_ok_inv given
    obtain ⟨_, valid, same⟩ := bind_ok_inv checked
    cases same
    exact valid

/-- Acceptable options give the metadata class and the root class different names. -/
theorem Options.ne_of_validate {options : Options} (valid : options.validate = .ok ()) :
    options.metadataName ≠ options.rootName := by
  intro same
  rw [validate_eq_ok_iff, fault?] at valid
  by_cases empty : options.rootName = ""
  · simp [empty] at valid
  · simp [same, empty] at valid

namespace Update

variable {α β : Type} {kinds : List Kind}

/-- An operation that makes or changes things of these kinds only, and is rid of none. -/
structure Confined (kinds : List Kind) (u : Update α) : Prop where
  outside : ∀ h : Heap, h.SameOutside kinds (u h).2
  extended : ∀ h : Heap, h.Extends (u h).2

theorem confined_pure (a : α) : Confined kinds (pure a) where
  outside := .refl kinds
  extended := .refl

theorem confined_get : Confined kinds (get : Update Heap) where
  outside := .refl kinds
  extended := .refl

theorem confined_bind {u : Update α} {f : α → Update β} (first : Confined kinds u)
    (rest : ∀ a, Confined kinds (f a)) : Confined kinds (u >>= f) where
  outside h := (first.outside h).trans ((rest (u h).1).outside (u h).2)
  extended h := (first.extended h).trans ((rest (u h).1).extended (u h).2)

theorem confined_newBuiltins (surface : List (String × Builtin)) :
    Confined [.function] (newBuiltins surface) where
  outside h := (newBuiltins_passage .still surface h).2.1
  extended h := (newBuiltins_passage .still surface h).1.extended

theorem confined_install (o : ObjectRef) (properties : List (String × Value)) :
    Confined [.object] (install o properties) where
  outside := Event.frame (.install o properties)
  extended h := h.extends_install o properties

theorem confined_registerHost (rt : RuntimeRef) (name : String) (create : Option FunctionRef) :
    Confined [.object, .runtime] (registerHost rt name create) where
  outside := Event.frame (.host rt name create)
  extended h := h.extends_registerHost rt name create

theorem Confined.mono {more : List Kind} {u : Update α} (confined : Confined kinds u)
    (within : kinds ⊆ more) : Confined more u where
  outside h := (confined.outside h).mono within
  extended := confined.extended

theorem confined_furnishRuntime (options : Options) (rt : RuntimeRef) :
    Confined [.object, .function, .runtime] (furnishRuntime options rt) := by
  have builtins : ∀ surface, Confined [.object, .function, .runtime] (newBuiltins surface) :=
    fun surface => (confined_newBuiltins surface).mono (by simp)
  have install : ∀ o entries, Confined [.object, .function, .runtime] (install o entries) :=
    fun o entries => (confined_install o entries).mono (by simp)
  have host : Confined [.object, .function, .runtime] (registerHost rt "String" none) :=
    (confined_registerHost rt "String" none).mono (by simp)
  refine confined_bind (builtins _) fun surface => confined_bind confined_get fun h => ?_
  refine confined_bind (install _ _) fun _ => confined_bind ?_ fun _ => builtins _
  refine confined_bind host fun strings => confined_bind (builtins _) fun surface => ?_
  exact confined_bind (install _ _) fun _ => confined_pure _

theorem buildRuntime_stages (options : Options) (h : Heap) :
    ∃ h₁ members, (openRuntime options h).2.SameOutside [.object, .function, .runtime] h₁ ∧
      (openRuntime options h).2.Extends h₁ ∧
      buildRuntime options h =
        (h.runtimes.fresh, (setMetadataClass h.runtimes.fresh h₁.classes.fresh
          (buildClass h.runtimes.fresh (descriptorDefinition options.metadataName members)
            h.classes.fresh h₁).2).2) := by
  have furnish := confined_furnishRuntime options h.runtimes.fresh
  have outside := furnish.outside (openRuntime options h).2
  have extended := furnish.extended (openRuntime options h).2
  have root := (extended.runtime (isLive_openRuntime_fresh options h)).root
  rw [openRuntime_runtime] at root
  rw [buildRuntime_eq]
  simp only [bind_apply, pure_apply, get_apply, openRuntime_fst, buildClass_fst, root]
  exact ⟨_, _, outside, extended, rfl⟩

/-- The definition of the metadata class has its name, whatever members it is given. -/
theorem descriptorDefinition_name (name : String) (members : List (String × Value)) :
    (descriptorDefinition name members).name = name := by
  have kept : ∀ d : Definition,
      (members.foldl (fun d entry => d.member entry.1 entry.2) d).name = d.name := by
    intro d
    induction members generalizing d with
    | nil => rfl
    | cons entry rest ih => exact ih (d.member entry.1 entry.2)
  exact kept { name }

end Update

/-- The counter, the classes and the registry of a runtime that was built, and where it has them. -/
structure FreshRuntime (options : Options) (h h' : Heap) : Prop where
  counters : h'.counters = h.counters.add 0
  classes : ∃ root metadata, h'.classes = (h.classes.add root).add metadata ∧
    root.descriptor = none ∧ metadata.descriptor = none
  registries : h'.registries = h.registries.add
    ((({} : Registry).register options.rootName h.classes.fresh).2.register options.metadataName
      ⟨h.classes.size + 1⟩).2
  counter : (h'.runtime h.runtimes.fresh).counter = h.counters.fresh
  registry : (h'.runtime h.runtimes.fresh).registry = h.registries.fresh
  root : (h'.runtime h.runtimes.fresh).root = h.classes.fresh
  metadataClass : (h'.runtime h.runtimes.fresh).metadataClass = some ⟨h.classes.size + 1⟩

theorem buildRuntime_fresh (options : Options) (h : Heap) :
    FreshRuntime options h (Update.buildRuntime options h).2 := by
  obtain ⟨h₁, members, outside, extended, stages⟩ := Update.buildRuntime_stages options h
  have live := Update.isLive_openRuntime_fresh options h
  have kept := extended.runtime live
  have there := extended.runtimes.isLive live
  have counters := outside.counters (by simp)
  have classes := outside.classes (by simp)
  have registries := outside.registries (by simp)
  rw [Update.openRuntime_runtime] at kept
  have registry := kept.registry
  rw [Update.openRuntime_apply] at counters classes registries
  rw [stages]
  generalize definition : Update.descriptorDefinition options.metadataName members = d
  have name : d.name = options.metadataName := by
    rw [← definition]
    exact Update.descriptorDefinition_name _ members
  have fresh : h₁.classes.fresh = ⟨h.classes.size + 1⟩ := by
    rw [classes, Arena.fresh_add]
  have runtimes : (Update.buildClass h.runtimes.fresh d h.classes.fresh h₁).2.runtimes =
      h₁.runtimes := by
    rw [Update.buildClass_apply]
  rw [Heap.runtime, ← runtimes, ← Heap.runtime] at kept
  have cell := Update.setMetadataClass_runtime (runtimes ▸ there) h₁.classes.fresh
  constructor
  case counters =>
    rw [Update.buildClass_apply]
    exact counters
  case classes =>
    rw [Update.buildClass_apply]
    exact ⟨_, _, congrArg (Arena.add · _) classes, rfl, rfl⟩
  case registries =>
    rw [Update.buildClass_apply]
    show h₁.registries.modify (h₁.runtime h.runtimes.fresh).registry _ = _
    rw [registry, registries, Arena.modify_add_fresh, name, fresh]
  case counter =>
    rw [cell]
    exact kept.counter
  case registry =>
    rw [cell]
    exact kept.registry
  case root =>
    rw [cell]
    exact kept.root
  case metadataClass =>
    rw [cell]
    exact congrArg some fresh

/-- The registry knows the metadata class and the root class, and no other. -/
theorem FreshRuntime.classNamed {options : Options} {h h' : Heap} (fresh : FreshRuntime options h h')
    (name : String) :
    h'.classNamed h.runtimes.fresh name =
      if name = options.metadataName then some ⟨h.classes.size + 1⟩
      else if name = options.rootName then some h.classes.fresh else none := by
  rw [Heap.classNamed, Heap.registryOf, Heap.registry, fresh.registry, fresh.registries,
    Arena.get_add_fresh, Registry.get?_register, Registry.get?_register, Registry.get?_empty]

/-- A runtime that has just started: it knows its root class and its metadata class under the names that
the options give, has issued no identity, and none of its classes has a descriptor. -/
structure Started (h₀ h : Heap) (options : Options) (rt : RuntimeRef) : Prop where
  new : ¬ h₀.runtimes.isLive rt = true
  live : h.runtimes.isLive rt = true
  given : (h.runtime rt).options = options
  root : h.classNamed rt options.rootName = some (h.runtime rt).root
  metadata : ∃ m, (h.runtime rt).metadataClass = some m ∧
    h.classNamed rt options.metadataName = some m ∧ (h.klass m).name = options.metadataName ∧
    (h.klass m).superclass = some (h.runtime rt).root
  others : ∀ name, name ≠ options.rootName → name ≠ options.metadataName → h.classNamed rt name = none
  issued : h.issued (h.runtime rt).counter = 0
  descriptors : h.descriptors = h₀.descriptors
  undescribed : ∀ name c, h.classNamed rt name = some c →
    ¬ h₀.classes.isLive c = true ∧ (h.klass c).descriptor = none
  /-- There are no new classes but those that it knows. -/
  known : ∀ c, h.classes.isLive c = true →
    h₀.classes.isLive c = true ∨ ∃ name, h.classNamed rt name = some c

theorem buildRuntime_started {h : Heap} (closed : h.Closed) {options : Options}
    (valid : options.validate = .ok ()) :
    Started h (Update.buildRuntime options h).2 options (Update.buildRuntime options h).1 := by
  have completed := buildRuntime_completed .still options closed
  have fresh := buildRuntime_fresh options h
  obtain ⟨_, _, _, _, stages⟩ := Update.buildRuntime_stages options h
  have made : (Update.buildRuntime options h).1 = h.runtimes.fresh := by rw [stages]
  rw [made] at completed ⊢
  have named := fresh.classNamed
  have apart := (Options.ne_of_validate valid).symm
  obtain ⟨m, set, name, superclass⟩ := completed.metadata
  obtain ⟨root, metadata, classes, first, second⟩ := fresh.classes
  have last : (⟨h.classes.size + 1⟩ : ClassRef) = (h.classes.add root).fresh :=
    (Arena.fresh_add h.classes root).symm
  constructor
  case new => simp
  case live => exact completed.live
  case given => exact completed.options
  case root =>
    rw [named, if_neg apart, if_pos rfl, fresh.root]
  case metadata =>
    refine ⟨m, set, ?_, name, superclass⟩
    rw [named, if_pos rfl, ← fresh.metadataClass, set]
  case others =>
    intro name other other'
    rw [named, if_neg other', if_neg other]
  case issued =>
    rw [Heap.issued, fresh.counter, fresh.counters, Arena.get_add_fresh]
  case descriptors => exact completed.descriptors
  case undescribed =>
    intro name c registered
    have there : (h.classes.add root).isLive h.classes.fresh = true := by simp
    rw [named, last] at registered
    rw [Heap.klass, classes]
    split at registered
    · cases registered
      rw [Arena.get_add_fresh]
      refine ⟨?_, second⟩
      simp [Arena.fresh_add, Arena.isLive_iff]
    · split at registered
      · cases registered
        rw [Arena.get_add_of_isLive there, Arena.get_add_fresh]
        exact ⟨by simp, first⟩
      · cases registered
  case known =>
    intro c live
    rw [classes, Arena.isLive_add, Arena.isLive_add] at live
    simp only [Bool.or_eq_true, decide_eq_true_iff] at live
    rcases live with (old | isRoot) | isMetadata
    · exact Or.inl old
    · refine Or.inr ⟨options.rootName, ?_⟩
      rw [named, if_neg apart, if_pos rfl, isRoot]
    · refine Or.inr ⟨options.metadataName, ?_⟩
      rw [named, if_pos rfl, last, isMetadata]

/-- Does a watch rule out that a program writes to the root prototype of a runtime or to the prototype
of its strings? -/
structure Watch.SparesSurfaces (watch : Watch) (rt : RuntimeRef) : Prop where
  root : ∀ h o, watch.mayWrite h o = true → o ≠ h.rootPrototype rt
  strings : watch.SparesStrings rt

theorem Watch.still_spares (rt : RuntimeRef) : Watch.still.SparesSurfaces rt where
  root _ _ write := absurd write Bool.false_ne_true
  strings _ _ _ write := absurd write Bool.false_ne_true

theorem Surfaces.passage {watch : Watch} {h h' : Heap} {rt : RuntimeRef} {host : HostType}
    (surfaces : Surfaces h rt host) (closed : h.Closed) (runtime : h.runtimes.isLive rt = true)
    (spares : watch.SparesSurfaces rt) (passage : Passage watch h h') : Surfaces h' rt host := by
  apply surfaces.later closed runtime passage.extended
  · refine passage.properties_eq (closed.rootPrototype_live runtime) fun later extended write => ?_
    exact spares.root later _ write (extended.rootPrototype closed runtime).symm
  · refine passage.properties_eq surfaces.live fun later extended write => ?_
    exact spares.strings later _ host write (extended.hostNamed runtime surfaces.hosted) rfl

theorem Passage.hashed {watch : Watch} {h h' : Heap} (passage : Passage watch h h')
    (hashed : h.Hashed) : h'.Hashed := by
  obtain ⟨es, trace⟩ := passage.trace
  exact trace.invariant (fun _ _ => Event.hashed) hashed

/-- Strings answer by their content alone. The hash code is remembered by the string, the text is a new
string, and else nothing changes. -/
structure AnswersStrings {σ : Type} (w : World σ) (rt : RuntimeRef) : Prop where
  hashCode : ∀ n s, w.heap.strings.isLive s = true →
    (Setting.within {} (n + 1)).perform (.invoke rt (.string s) "hashCode" []) w =
      some (.ok (.integer (contentHash (w.heap.string s).units)),
        { w with heap := (Update.hashOf s w.heap).2 })
  startsWith : ∀ n s t, w.heap.strings.isLive s = true → w.heap.strings.isLive t = true →
    (Setting.within {} (n + 1)).perform (.invoke rt (.string s) "startsWith" [.string t]) w =
      some (.ok (.boolean (decide ((w.heap.string t).units <+: (w.heap.string s).units))), w)
  endsWith : ∀ n s t, w.heap.strings.isLive s = true → w.heap.strings.isLive t = true →
    (Setting.within {} (n + 1)).perform (.invoke rt (.string s) "endsWith" [.string t]) w =
      some (.ok (.boolean (decide ((w.heap.string t).units <:+ (w.heap.string s).units))), w)
  equals : ∀ n s t, w.heap.strings.isLive s = true → w.heap.strings.isLive t = true →
    (Setting.within {} (n + 1)).perform (.invoke rt (.string s) "equals" [.string t]) w =
      some (.ok (.boolean (decide ((w.heap.string s).units = (w.heap.string t).units))), w)
  toString : ∀ n s, w.heap.strings.isLive s = true → ∃ text heap,
    (Setting.within {} (n + 1)).perform (.invoke rt (.string s) "toString" []) w =
      some (.ok (.string text), { w with heap }) ∧
    (text, heap) = Update.newText (w.heap.display (.string s)) w.heap ∧
    (heap.string text).units = Utf16.encode (w.heap.display (.string s))

theorem Surfaces.answersStrings {σ : Type} {w : World σ} {rt : RuntimeRef} {host : HostType}
    (surfaces : Surfaces w.heap rt host) (closed : w.heap.Closed) (hashed : w.heap.Hashed)
    (runtime : w.heap.runtimes.isLive rt = true) : AnswersStrings w rt := by
  have call : ∀ {name : String} {b : Builtin}, (name, b) ∈ stringTests ++ Update.objectSurface →
      ∀ n s args, w.heap.strings.isLive s = true → args.all w.heap.hasValue = true →
        (Setting.within {} (n + 1)).perform (.invoke rt (.string s) name args) w =
          (Setting.within {} n).runBuiltin b rt (.string s) args w := by
    intro name b among n s args string live
    obtain ⟨f, found, code⟩ := surfaces.lookup closed among s
    exact perform_stringMember runtime string live found code n
  have lone : ∀ {t}, w.heap.strings.isLive t = true → [Value.string t].all w.heap.hasValue = true :=
    fun live => Bool.and_eq_true_iff.2 ⟨live, rfl⟩
  constructor
  case hashCode =>
    intro n s string
    rw [call (b := .objectHashCode) (by decide) n s [] string rfl, ← hashOf_answer hashed s]
    rfl
  case startsWith =>
    intro n s t string string'
    rw [call (b := .stringStartsWith) (by decide) n s _ string (lone string'), ← Utf16.startsWith_eq]
    exact stringArguments_apply _ _ s _ _
  case endsWith =>
    intro n s t string string'
    rw [call (b := .stringEndsWith) (by decide) n s _ string (lone string'), ← Utf16.endsWith_eq]
    exact stringArguments_apply _ _ s _ _
  case equals =>
    intro n s t string string'
    rw [call (b := .objectEquals) (by decide) n s _ string (lone string'), ← beq_eq_decide]
    rfl
  case toString =>
    intro n s string
    rw [call (b := .objectToString) (by decide) n s [] string rfl]
    refine ⟨_, _, rfl, rfl, ?_⟩
    exact congrArg StringCell.units (Arena.get_add_fresh w.heap.strings _)

/-- What asking for a runtime comes to: the error of the options, with nothing changed, or a runtime that
has just started. Its strings answer by their content, right then and for as long as programs spare its
surfaces. -/
def Starts {σ : Type} (w : World σ) (options : Options)
    (answer : Option (Except Error RuntimeRef × World σ)) : Prop :=
  match options.validate with
  | .error e => answer = some (.error e, w)
  | .ok () => ∃ rt heap, answer = some (.ok rt, { w with heap }) ∧ Started w.heap heap options rt ∧
    ∀ watch : Watch, watch.SparesSurfaces rt → ∀ w' : World σ, Passage watch heap w'.heap →
      AnswersStrings w' rt

theorem perform_newRuntime {σ : Type} (n : Nat) (options : Options) (w : World σ) :
    (Setting.within {} n).perform (.newRuntime options) w =
      some ((Update.newRuntime options w.heap).1,
        { w with heap := (Update.newRuntime options w.heap).2 }) := by
  have allowed : ((Request.newRuntime options).isLive w.heap &&
      (Setting.within {} n : Setting σ).watch.mayAsk w.heap (.newRuntime options)) = true := rfl
  unfold Setting.perform
  rw [if_pos allowed, Setting.serve, Action.tryUpdate]

/-- A runtime starts for exactly the options that are acceptable, to which all options from configuration
text belong. -/
theorem runtime_starts {σ : Type} {watch : Watch} {w : World σ} (reached : w.heap.Reached watch) :
    (∀ parse text options, Options.ofText parse text = .ok options → options.validate = .ok ()) ∧
      ∀ n options, Starts w options ((Setting.within {} n).perform (.newRuntime options) w) := by
  refine ⟨fun _ _ _ => Options.validate_of_ofText, fun n options => ?_⟩
  rw [perform_newRuntime, Update.newRuntime_apply, Starts]
  cases valid : options.validate with
  | error e => rfl
  | ok _ =>
    have closed := reached.closed
    have started := buildRuntime_started closed valid
    dsimp only
    refine ⟨_, _, rfl, started, fun later spares w' passage => ?_⟩
    obtain ⟨h₁, host, closed₁, runtime, surfaces, rest⟩ := buildRuntime_surfaces .still options closed
    have building := (buildRuntime_completed .still options closed).passage
    have closed' := building.closed closed
    have surfaces' := surfaces.passage closed₁ runtime (Watch.still_spares _) rest
    exact (surfaces'.passage closed' started.live spares passage).answersStrings
      (passage.closed closed') (passage.hashed (building.hashed reached.hashed))
      (passage.extended.runtimes.isLive started.live)

/-- Options under which strings have the root prototype for their own, and constructor variants are called
like their selectors. -/
def rootedStrings : Options := { rootName := "String", constructorPrefix := "" }

theorem rootedStrings_start : ∃ rt heap w',
    (Setting.within {} 1).perform (.newRuntime rootedStrings) { state := () } =
      some (.ok rt, { heap, state := () }) ∧
    heap.classNamed rt "String" = some (heap.runtime rt).root ∧
    (Setting.within {} 1).perform (.invoke rt (.string heap.strings.fresh) "hashCode" [])
        { heap := (Update.newText "abc" heap).2, state := () } = some (.ok (.integer 96354), w') := by
  have valid : rootedStrings.validate = .ok () := Options.validate_eq_ok_iff.2 (by decide +kernel)
  have empty : Heap.Reached {} {} := ⟨[], .nil {}⟩
  have starts := (runtime_starts (w := { state := () }) empty).2 1 rootedStrings
  rw [Starts, valid] at starts
  obtain ⟨rt, heap, served, started, answers⟩ := starts
  have passage : Passage .still heap (Update.newText "abc" heap).2 :=
    .of_event (e := .string (Utf16.encode "abc")) trivial id
  have live : (Update.newText "abc" heap).2.strings.isLive heap.strings.fresh = true := by
    simp [Update.newText, Update.newString]
  have units : ((Update.newText "abc" heap).2.string heap.strings.fresh).units = Utf16.encode "abc" :=
    congrArg StringCell.units (Arena.get_add_fresh heap.strings _)
  have strings := answers .still (Watch.still_spares rt)
    { heap := (Update.newText "abc" heap).2, state := () } passage
  have answer := strings.hashCode 0 heap.strings.fresh live
  have hash : contentHash (Utf16.encode "abc") = 96354 := by decide +kernel
  rw [units, hash] at answer
  exact ⟨rt, heap, _, served, started.root, answer⟩

end ProtoClass
