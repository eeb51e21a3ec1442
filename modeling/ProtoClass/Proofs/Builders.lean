import ProtoClass.Proofs.Outcomes

set_option autoImplicit false

/- A definition can be given in the flat form, or be built by one call for each entry. Repeated keys
are put together in different places on the two ways, and repeated annotations on one of them only when
they are assigned. This makes no difference: the same class is made, with the properties that the
entries leave when each of them is assigned in its turn. -/
namespace ProtoClass

/-- A call that adds one entry to a definition. -/
inductive BuilderCall where
  | member (name : String) (value : Value)
  | static (name : String) (value : Value)
  | note (name : String) (value : Value)
  deriving DecidableEq

namespace BuilderCall

/-- The call that says the same as an entry of the flat form. -/
def ofEntry (marker : Char) (entry : String × Value) : BuilderCall :=
  match Definition.unmarked? marker entry.1 with
  | none => .member entry.1 entry.2
  | some key => .static key entry.2

def member? : BuilderCall → Option (String × Value)
  | member name value => some (name, value)
  | _ => none

def static? : BuilderCall → Option (String × Value)
  | static name value => some (name, value)
  | _ => none

def note? : BuilderCall → Option (String × Value)
  | note name value => some (name, value)
  | _ => none

def addTo (d : Definition) : BuilderCall → Definition
  | member name value => d.member name value
  | static name value => d.static name value
  | note name value => d.annotation name value

/-- There is one call for each entry of a flat form and one for each annotation, in their orders. -/
structure Spells (marker : Char) (entries annotations : List (String × Value))
    (calls : List BuilderCall) : Prop where
  entries : (calls.filter fun call => call.note?.isNone) = entries.map (ofEntry marker)
  annotations : calls.filterMap note? = annotations

variable {marker : Char} {entries annotations : List (String × Value)} {calls : List BuilderCall}

theorem member?_ofEntry (marker : Char) (entry : String × Value) :
    (ofEntry marker entry).member? =
      Option.guard (fun entry => (Definition.unmarked? marker entry.1).isNone) entry := by
  rw [ofEntry]
  cases read : Definition.unmarked? marker entry.1 <;> simp [member?, Option.guard, read]

theorem static?_ofEntry (marker : Char) (entry : String × Value) :
    (ofEntry marker entry).static? =
      (Definition.unmarked? marker entry.1).map fun key => (key, entry.2) := by
  rw [ofEntry]
  cases Definition.unmarked? marker entry.1 <;> rfl

/-- What annotations do not have can be looked for in the other calls alone. -/
theorem filterMap_declared {pick : BuilderCall → Option (String × Value)}
    (none_of : ∀ name value, pick (.note name value) = none) (calls : List BuilderCall) :
    (calls.filter fun call => call.note?.isNone).filterMap pick = calls.filterMap pick := by
  rw [List.filterMap_filter]
  apply List.filterMap_congr
  intro call _
  cases call with
  | note name value => exact (none_of name value).symm
  | _ => rfl

namespace Spells

variable (spelled : Spells marker entries annotations calls)
include spelled

theorem members : calls.filterMap member? = Definition.memberEntries marker entries := by
  rw [← filterMap_declared fun _ _ => rfl, spelled.entries, List.filterMap_map,
    Definition.memberEntries, ← List.filterMap_eq_filter]
  exact List.filterMap_congr fun entry _ => member?_ofEntry marker entry

theorem statics : calls.filterMap static? = Definition.staticEntries marker entries := by
  rw [← filterMap_declared fun _ _ => rfl, spelled.entries, List.filterMap_map,
    Definition.staticEntries]
  exact List.filterMap_congr fun entry _ => static?_ofEntry marker entry

end Spells

end BuilderCall

namespace Definition

/-- Makes calls one after another. -/
def build (d : Definition) (calls : List BuilderCall) : Definition :=
  calls.foldl BuilderCall.addTo d

/-- Each call adds to one table, and all else stays. -/
theorem build_eq (d : Definition) (calls : List BuilderCall) :
    d.build calls = { d with
      members := Named.putAll (calls.filterMap BuilderCall.member?) d.members
      statics := Named.putAll (calls.filterMap BuilderCall.static?) d.statics
      annotations := (d.build calls).annotations } := by
  induction calls generalizing d with
  | nil => rfl
  | cons call rest ih =>
    have later := ih (call.addTo d)
    cases call <;> exact later

theorem annotations_build (d : Definition) (calls : List BuilderCall) :
    (d.build calls).annotations.getD [] =
      Named.putAll (calls.filterMap BuilderCall.note?) (d.annotations.getD []) := by
  induction calls generalizing d with
  | nil => rfl
  | cons call rest ih =>
    have later := ih (call.addTo d)
    cases call <;> exact later

/-- What is built by calls that stand for entries is what is read from these, but that annotations are
put together. -/
theorem build_of_spells {marker : Char} {name superclass : String} {entries : List (String × Value)}
    {annotations : Option (List (String × Value))} {calls : List BuilderCall} {d : Definition}
    (plain : ∀ entry ∈ entries, entry.1 ≠ marked marker "")
    (read : parse name superclass entries annotations marker = .ok d)
    (spelled : BuilderCall.Spells marker entries (annotations.getD []) calls) :
    ∃ noted, (({ name } : Definition).extending superclass).build calls =
      { d with annotations := noted } ∧ noted.getD [] = Named.putAll (d.annotations.getD []) [] := by
  rw [parse_eq_ok plain] at read
  cases read
  refine ⟨_, (build_eq _ calls).trans ?_,
    (annotations_build (extending { name } superclass) calls).trans ?_⟩
  · rw [spelled.members, spelled.statics]
    rfl
  · rw [spelled.annotations]
    rfl

end Definition

/-- Where each name is put once with its last value, the same is assigned as where all entries are. -/
theorem PropertyTable.ofEntries_putAll (entries : List (String × Value)) :
    ofEntries (Named.putAll entries []) = ofEntries entries :=
  ofEntries_congr (eraseDups_names_putAll entries) (Named.lookup_reverse_putAll entries)

/-- Of its annotations a class has no more than what they leave when they are assigned. -/
theorem Update.buildClass_annotated {d : Definition} {noted : Option (List (String × Value))}
    (same : PropertyTable.ofEntries (noted.getD []) = .ofEntries (d.annotations.getD []))
    (rt : RuntimeRef) (p : ClassRef) (h : Heap) :
    buildClass rt { d with annotations := noted } p h = buildClass rt d p h := by
  rw [buildClass_apply, buildClass_apply, same]

section Resolving

variable {h : Heap} {rt : RuntimeRef} {name superclass : String}

theorem Heap.resolved_of_namesClass {p : ClassRef} (named : h.NamesClass rt superclass p) :
    (h.registryOf rt).resolve name superclass (h.runtime rt).root = .ok p := by
  unfold NamesClass at named
  unfold Registry.resolve
  split at named
  · next unnamed => rw [if_pos unnamed, named]
  · next other =>
    rw [classNamed] at named
    rw [if_neg other, named]

theorem Registry.resolve_error {r : Registry} {root : ClassRef} {e : Error}
    (unresolved : r.resolve name superclass root = .error e) :
    e = .unresolvedSuperclass name superclass := by
  unfold resolve at unresolved
  split at unresolved
  · cases unresolved
  · split at unresolved
    · cases unresolved
    · cases unresolved
      rfl

end Resolving

/-- A class has the properties that entries and annotations leave when each is assigned in its turn, and
its text. -/
structure Assigned (h : Heap) (c : ClassRef) (name : String) (marker : Char)
    (entries annotations : List (String × Value)) : Prop where
  prototype : (h.object (h.klass c).prototype).properties =
    .ofEntries (Definition.memberEntries marker entries)
  annotations : (h.object (h.klass c).annotations).properties = .ofEntries annotations
  statics : ∃ text, (h.object (h.klass c).statics).properties =
      ((PropertyTable.ofEntries (Definition.staticEntries marker entries)).define "toString"
        (.function text) ⟨true, false, true⟩).2 ∧
    (h.function text).code = .builtin (.classToString name)

theorem assigned_buildClass {d : Definition} {marker : Char}
    {entries annotations : List (String × Value)}
    (members : d.members = Named.putAll (Definition.memberEntries marker entries) [])
    (statics : d.statics = Named.putAll (Definition.staticEntries marker entries) [])
    (noted : d.annotations.getD [] = annotations) (rt : RuntimeRef) (p : ClassRef) (h : Heap) :
    Assigned (Update.buildClass rt d p h).2 h.classes.fresh d.name marker entries annotations where
  prototype := by
    rw [Update.buildClass_class, Update.buildClass_prototype, members, PropertyTable.ofEntries_putAll]
  annotations := by rw [Update.buildClass_class, Update.buildClass_annotations, noted]
  statics := by
    refine ⟨h.functions.fresh, ?_, by rw [Update.buildClass_function]⟩
    rw [Update.buildClass_class, Update.buildClass_statics, statics, PropertyTable.ofEntries_putAll]

theorem ClassSource.isLive_of_put {h : Heap} {rt : RuntimeRef} {name superclass : String}
    {marker : Char} {entries : List (String × Value)}
    {annotations noted : Option (List (String × Value))} {d : Definition}
    (live : (ClassSource.flat name superclass entries annotations).isLive h rt = true)
    (read : Definition.parse name superclass entries annotations marker = .ok d)
    (put : noted.getD [] = Named.putAll (d.annotations.getD []) []) :
    (ClassSource.spec { d with annotations := noted }).isLive h rt = true := by
  simp only [isLive, Request.isLive, Bool.and_eq_true] at live ⊢
  obtain ⟨⟨runtime, given⟩, marked⟩ := live
  obtain ⟨members, statics, initializer, annotations⟩ :=
    Heap.hasDefinition_iff.1 (Heap.hasDefinition_parse given marked read)
  refine ⟨runtime, Heap.hasDefinition_iff.2 ⟨members, statics, initializer, ?_⟩⟩
  rw [put]
  exact Heap.hasEntries_putAll rfl annotations

theorem Setting.defineClass_annotated {σ : Type} {s : Setting σ} {w : World σ} {rt : RuntimeRef}
    {d : Definition} {noted : Option (List (String × Value))} (plain : d.initializer = none)
    (same : PropertyTable.ofEntries (noted.getD []) = .ofEntries (d.annotations.getD [])) :
    s.defineClass rt { d with annotations := noted } w = s.defineClass rt d w := by
  let d' : Definition := { d with annotations := noted }
  change s.defineClass rt d' w = s.defineClass rt d w
  cases resolved : (w.heap.registryOf rt).resolve d.name d.superclass (w.heap.runtime rt).root with
  | error e =>
    have resolved' : (w.heap.registryOf rt).resolve d'.name d'.superclass (w.heap.runtime rt).root =
      .error e := resolved
    rw [defineClass_of_unresolved resolved, defineClass_of_unresolved resolved']
  | ok p =>
    have resolved' : (w.heap.registryOf rt).resolve d'.name d'.superclass (w.heap.runtime rt).root =
      .ok p := resolved
    have plain' : d'.initializer = none := plain
    rw [defineClass_of_resolved resolved, defineClass_of_resolved resolved', finishClass_of_none plain,
      finishClass_of_none plain', Update.buildClass_annotated same]

/-- What the two ways come to. -/
structure DefineAlike {σ : Type} (s : Setting σ) (w : World σ) (rt : RuntimeRef)
    (flat built : ClassSource) (marker : Char) (entries annotations : List (String × Value)) : Prop where
  same : flat.define s rt w = built.define s rt w
  /-- Without a superclass of the name nothing is made; -/
  refused : (∀ p, ¬ w.heap.NamesClass rt flat.superclass p) →
    flat.define s rt w = some (.error (.unresolvedSuperclass flat.name flat.superclass), w)
  /-- with one, a class is. -/
  made : ∀ p, w.heap.NamesClass rt flat.superclass p → ∃ c h,
    flat.define s rt w = some (.ok c, { w with heap := h }) ∧ (h.klass c).superclass = some p ∧
      Assigned h c flat.name marker entries annotations

/-- In every world a class that is given in the flat form, without a static initializer, is the class
that is given by one call for each entry and each annotation. -/
theorem builders_define_alike {σ : Type} {s : Setting σ} {w : World σ} {rt : RuntimeRef}
    {name superclass : String}
    {entries : List (String × Value)} {annotations : Option (List (String × Value))}
    {calls : List BuilderCall} (free : s.watch = {})
    (live : (ClassSource.flat name superclass entries annotations).isLive w.heap rt = true)
    (plain : ∀ entry ∈ entries,
      entry.1 ≠ Definition.marked (w.heap.runtime rt).options.staticMarker "")
    (spelled : BuilderCall.Spells (w.heap.runtime rt).options.staticMarker entries
      (annotations.getD []) calls) :
    DefineAlike s w rt (.flat name superclass entries annotations)
      (.spec ((({ name } : Definition).extending superclass).build calls))
      (w.heap.runtime rt).options.staticMarker entries (annotations.getD []) := by
  obtain ⟨d, read, rfl, rfl, rfl, members, statics, initializer⟩ :
      ∃ d, Definition.parse name superclass entries annotations
          (w.heap.runtime rt).options.staticMarker = .ok d ∧ d.name = name ∧
        d.superclass = superclass ∧ d.annotations = annotations ∧
        d.members = Named.putAll (Definition.memberEntries _ entries) [] ∧
        d.statics = Named.putAll (Definition.staticEntries _ entries) [] ∧ d.initializer = none :=
    ⟨_, Definition.parse_eq_ok plain name superclass annotations, rfl, rfl, rfl, rfl, rfl, rfl⟩
  -- the two definitions differ in their annotations alone, and these leave the same when assigned
  obtain ⟨noted, built, put⟩ := Definition.build_of_spells plain read spelled
  have assigned : PropertyTable.ofEntries (noted.getD []) = .ofEntries (d.annotations.getD []) := by
    rw [put, PropertyTable.ofEntries_putAll]
  have flat_course := ClassSource.define_of_read free live read
  have built_course := ClassSource.define_of_read free (ClassSource.isLive_of_put live read put) rfl
  rw [built]
  constructor
  · exact (flat_course.trans (Setting.defineClass_annotated initializer assigned).symm).trans
      built_course.symm
  · intro unknown
    rw [flat_course]
    cases resolved :
      (w.heap.registryOf rt).resolve d.name d.superclass (w.heap.runtime rt).root with
    | error e =>
      rw [Setting.defineClass_of_unresolved resolved, Registry.resolve_error resolved]
      rfl
    | ok p => exact absurd (Heap.namesClass_of_resolved resolved) (unknown p)
  · intro p named
    have resolved : (w.heap.registryOf rt).resolve d.name d.superclass (w.heap.runtime rt).root =
      .ok p := Heap.resolved_of_namesClass named
    rw [flat_course, Setting.defineClass_of_resolved resolved,
      Setting.finishClass_of_none initializer]
    refine ⟨_, _, rfl, ?_, assigned_buildClass members statics rfl rt p w.heap⟩
    rw [Update.buildClass_class]

/-- Defines a class that others can name as their superclass. -/
def building : Program Unit := Script.toProgram do
  let rt ← Script.ask (.newRuntime {})
  return .klass (← Script.ask (.defineClass rt { name := "A" }))

/-- Entries of the flat form that repeat a key, and have a static of the name of the text. -/
def repeatingEntries : List (String × Value) :=
  [("x", .null), ("_toString", .null), ("x", .integer 1)]

def repeatingNotes : List (String × Value) := [("a", .null), ("a", .integer 2)]

/-- The calls that stand for them. -/
def repeatingCalls : List BuilderCall :=
  [.note "a" .null, .member "x" .null, .static "toString" .null, .note "a" (.integer 2),
    .member "x" (.integer 1)]

/-- A class with repeated keys and annotations is made on both ways, with the superclass that is named. -/
theorem building_agrees :
    ∃ m ∈ building.moments {} 1 () 20,
      (ClassSource.flat "B" "A" repeatingEntries (some repeatingNotes)).isLive m.heap ⟨0⟩ = true ∧
      BuilderCall.Spells '_' repeatingEntries repeatingNotes repeatingCalls ∧
      m.heap.NamesClass ⟨0⟩ "A" ⟨2⟩ ∧
      DefineAlike (Setting.within {} 1) m.toWorld ⟨0⟩
        (.flat "B" "A" repeatingEntries (some repeatingNotes))
        (.spec ((({ name := "B" } : Definition).extending "A").build repeatingCalls)) '_'
        repeatingEntries repeatingNotes := by
  have ends : (building.moments {} 1 () 20).any (fun m =>
      m.heap.runtimes.isLive ⟨0⟩ && decide (m.heap.classNamed ⟨0⟩ "A" = some ⟨2⟩) &&
      decide ((m.heap.runtime ⟨0⟩).options.staticMarker = '_')) = true := by
    decide +kernel
  obtain ⟨m, member, facts⟩ := List.any_eq_true.1 ends
  simp only [Bool.and_eq_true, decide_eq_true_iff] at facts
  obtain ⟨⟨runtime, registered⟩, marker⟩ := facts
  have live : (ClassSource.flat "B" "A" repeatingEntries (some repeatingNotes)).isLive m.heap ⟨0⟩ =
      true := by
    rw [ClassSource.isLive, Request.isLive, runtime]
    rfl
  have spelled : BuilderCall.Spells '_' repeatingEntries repeatingNotes repeatingCalls :=
    ⟨by decide +kernel, by decide⟩
  have agree := builders_define_alike (s := Setting.within {} 1) (w := m.toWorld) rfl live
    (by rw [marker]; decide +kernel) (by rw [marker]; exact spelled)
  rw [marker] at agree
  refine ⟨m, member, live, spelled, ?_, agree⟩
  rw [Heap.NamesClass, if_neg (by decide), registered]

end ProtoClass
