import ProtoClass.Proofs.FlatForm

set_option autoImplicit false

namespace ProtoClass

namespace Definition

/-- The names in the tables of a definition survive the flat form. -/
structure Plain (marker : Char) (d : Definition) : Prop where
  members : (d.members.map Prod.fst).Nodup
  unmarked : ∀ name ∈ d.members.map Prod.fst, Options.startsWithMarker marker name = false
  statics : (d.statics.map Prod.fst).Nodup
  named : ∀ name ∈ d.statics.map Prod.fst, name ≠ ""

/-- The entries of a flat form are those of the members, of the statics with the marker in front and of
the static initializer under the bare marker, mixed so that each table keeps its order. -/
inductive Flattens (marker : Char) : List (String × Value) → List (String × Value) →
    Option FunctionRef → List (String × Value) → Prop
  | nil : Flattens marker [] [] none []
  | member {members statics initializer entries} (name : String) (value : Value) :
      Flattens marker members statics initializer entries →
      Flattens marker ((name, value) :: members) statics initializer ((name, value) :: entries)
  | static {members statics initializer entries} (name : String) (value : Value) :
      Flattens marker members statics initializer entries →
      Flattens marker members ((name, value) :: statics) initializer
        ((marked marker name, value) :: entries)
  | initializer {members statics entries} (f : FunctionRef) :
      Flattens marker members statics none entries →
      Flattens marker members statics (some f) ((marked marker "", .function f) :: entries)

section Flat

variable {marker : Char} {members statics entries : List (String × Value)}
  {initializer : Option FunctionRef}

namespace Flattens

section Names

variable (flat : Flattens marker members statics initializer entries)
  (unmarked : ∀ name ∈ members.map Prod.fst, unmarked? marker name = none)
include flat unmarked

theorem memberEntries_eq : memberEntries marker entries = members := by
  induction flat with
  | nil => rfl
  | member name value _ ih =>
    obtain ⟨here, others⟩ := List.forall_mem_cons.1 unmarked
    rw [memberEntries, List.filter_cons_of_pos (by rw [here]; rfl), ← memberEntries, ih others]
  | static name value _ ih =>
    rw [memberEntries, List.filter_cons_of_neg (by rw [unmarked?_marked]; exact Bool.false_ne_true),
      ← memberEntries, ih unmarked]
  | initializer f _ ih =>
    rw [memberEntries, List.filter_cons_of_neg (by rw [unmarked?_marked]; exact Bool.false_ne_true),
      ← memberEntries, ih unmarked]

variable (named : ∀ name ∈ statics.map Prod.fst, name ≠ "")
include named

theorem staticEntries_eq :
    (staticEntries marker entries).filter (fun entry => entry.1 ≠ "") = statics := by
  induction flat with
  | nil => rfl
  | member name value _ ih =>
    obtain ⟨here, others⟩ := List.forall_mem_cons.1 unmarked
    rw [staticEntries, List.filterMap_cons_none (by rw [here]; rfl), ← staticEntries, ih others named]
  | static name value _ ih =>
    obtain ⟨here, others⟩ := List.forall_mem_cons.1 named
    rw [staticEntries, List.filterMap_cons_some (by rw [unmarked?_marked]; rfl),
      List.filter_cons_of_pos (by simpa using here), ← staticEntries, ih unmarked others]
  | initializer f _ ih =>
    rw [staticEntries, List.filterMap_cons_some (by rw [unmarked?_marked]; rfl),
      List.filter_cons_of_neg (by simp), ← staticEntries, ih unmarked named]

/-- Under the bare marker stands the static initializer and nothing else. -/
theorem lookup_bare :
    entries.reverse.lookup (marked marker "") = initializer.map Value.function := by
  induction flat with
  | nil => rfl
  | member name value _ ih =>
    obtain ⟨here, others⟩ := List.forall_mem_cons.1 unmarked
    rw [List.reverse_cons, List.lookup_append, ih others named, List.lookup_cons,
      beq_eq_false_iff_ne.2 (marked_ne_of_unmarked here ""), List.lookup_nil, Option.or_none]
  | static name value _ ih =>
    obtain ⟨here, others⟩ := List.forall_mem_cons.1 named
    rw [List.reverse_cons, List.lookup_append, ih unmarked others, List.lookup_cons,
      beq_eq_false_iff_ne.2 ((marked_injective marker).ne (Ne.symm here)), List.lookup_nil,
      Option.or_none]
  | initializer f _ ih =>
    -- there is no second one, so what `ih` finds behind it is nothing
    rw [List.reverse_cons, List.lookup_append, ih unmarked named, List.lookup_cons, beq_self_eq_true]
    rfl

theorem fits : ∀ entry ∈ entries, entry.1 = marked marker "" → ∃ f, entry.2 = .function f := by
  induction flat with
  | nil => exact nofun
  | member name value _ ih =>
    obtain ⟨here, others⟩ := List.forall_mem_cons.1 unmarked
    refine List.forall_mem_cons.2 ⟨fun bare => ?_, ih others named⟩
    exact absurd bare.symm (marked_ne_of_unmarked here "")
  | static name value _ ih =>
    obtain ⟨here, others⟩ := List.forall_mem_cons.1 named
    exact List.forall_mem_cons.2 ⟨fun bare => absurd (marked_injective marker bare) here,
      ih unmarked others⟩
  | initializer f _ ih => exact List.forall_mem_cons.2 ⟨fun _ => ⟨f, rfl⟩, ih unmarked named⟩

end Names

end Flattens

/-- A flat form of a definition reads as that definition. -/
theorem parse_of_flattens {d : Definition} (plain : d.Plain marker)
    (flat : Flattens marker d.members d.statics d.initializer entries) :
    parse d.name d.superclass entries d.annotations marker = .ok d := by
  have unmarked : ∀ name ∈ d.members.map Prod.fst, unmarked? marker name = none :=
    fun name member => unmarked?_eq_none_iff.2 (plain.unmarked name member)
  have initialized : (d.initializer.map Value.function).bind Value.function? = d.initializer := by
    cases d.initializer <;> rfl
  rw [parse_eq_unflatten (flat.fits unmarked plain.named), unflatten, flat.memberEntries_eq unmarked,
    flat.staticEntries_eq unmarked plain.named, flat.lookup_bare unmarked plain.named, initialized,
    Named.putAll_of_nodup plain.members, Named.putAll_of_nodup plain.statics]

end Flat

/-- What a definition has that was read from a flat form. -/
structure ReadFrom (marker : Char) (name superclass : String) (entries : List (String × Value))
    (annotations : Option (List (String × Value))) (d : Definition) : Prop where
  name : d.name = name
  superclass : d.superclass = superclass
  annotations : d.annotations = annotations
  plain : d.Plain marker
  /-- The keys stand in the order in which each came first, -/
  members : d.members.map Prod.fst =
    ((entries.map Prod.fst).filter fun key => !Options.startsWithMarker marker key).eraseDups
  statics : d.statics.map Prod.fst =
    (((entries.map Prod.fst).filterMap (unmarked? marker)).filter fun key => key ≠ "").eraseDups
  /-- each with the last value that was given. -/
  member : ∀ key, Options.startsWithMarker marker key = false →
    d.members.lookup key = entries.reverse.lookup key
  static : ∀ key, key ≠ "" → d.statics.lookup key = entries.reverse.lookup (marked marker key)
  initializer : d.initializer.map Value.function = entries.reverse.lookup (marked marker "")

section Reading

variable {marker : Char} {entries : List (String × Value)}

theorem readFrom_unflatten
    (fits : ∀ entry ∈ entries, entry.1 = marked marker "" → ∃ f, entry.2 = .function f)
    (name superclass : String) (annotations : Option (List (String × Value))) :
    ReadFrom marker name superclass entries annotations
      (unflatten marker name superclass entries annotations) := by
  have members : (Named.putAll (memberEntries marker entries) []).map Prod.fst =
      ((entries.map Prod.fst).filter fun key => !Options.startsWithMarker marker key).eraseDups := by
    rw [Named.names_putAll, names_memberEntries, isNone_unmarked?]
  have statics : (Named.putAll ((staticEntries marker entries).filter fun entry => entry.1 ≠ "")
      []).map Prod.fst =
      (((entries.map Prod.fst).filterMap (unmarked? marker)).filter fun key => key ≠ "").eraseDups := by
    rw [Named.names_putAll, ← names_staticEntries, List.filter_map]
    rfl
  exact {
    name := rfl
    superclass := rfl
    annotations := rfl
    plain := {
      members := Named.nodup_putAll _
      unmarked := by
        intro key member
        rw [unflatten, members, List.mem_eraseDups, List.mem_filter] at member
        simpa using member.2
      statics := Named.nodup_putAll _
      named := by
        intro key member
        rw [unflatten, statics, List.mem_eraseDups, List.mem_filter] at member
        simpa using member.2 }
    members := members
    statics := statics
    member := by
      intro key unmarked
      rw [unflatten, Named.lookup_putAll,
        lookup_reverse_memberEntries (unmarked?_eq_none_iff.2 unmarked)]
    static := by
      intro key named
      rw [unflatten, Named.lookup_putAll, ← List.filter_reverse,
        Named.lookup_filter (fun _ => decide_eq_true named), lookup_reverse_staticEntries]
    initializer := by
      rw [unflatten]
      cases found : entries.reverse.lookup (marked marker "") with
      | none => rfl
      | some value =>
        obtain ⟨f, rfl⟩ := fits _ (Named.mem_of_lookup_reverse found) rfl
        rfl }

end Reading

end Definition

/-- Reading undoes flattening, for every marker. Any other flat form is refused for the first value
under the bare marker that is no function, or reads as a definition that can be flattened again. -/
theorem flattening_is_undone (marker : Char) :
    (∀ (d : Definition) entries, d.Plain marker →
        Definition.Flattens marker d.members d.statics d.initializer entries →
        Definition.parse d.name d.superclass entries d.annotations marker = .ok d) ∧
      ∀ name superclass entries annotations,
        (∀ e, Definition.parse name superclass entries annotations marker = .error e ↔
          ∃ entry, entries.find? (Definition.misfits marker) = some entry ∧
            e = .typeError (.initializerNotFunction name entry.2.kindName)) ∧
        ((∀ entry ∈ entries, entry.1 = Definition.marked marker "" → ∃ f, entry.2 = .function f) ↔
          ∃ d, Definition.parse name superclass entries annotations marker = .ok d ∧
            d.ReadFrom marker name superclass entries annotations) := by
  refine ⟨fun d entries plain flat => Definition.parse_of_flattens plain flat, ?_⟩
  intro name superclass entries annotations
  cases found : entries.find? (Definition.misfits marker) with
  | none =>
    have fits := Definition.fits_of_find?_eq_none found
    have read := Definition.parse_of_fit found name superclass annotations
    constructor
    · intro e
      simp [read]
    · exact ⟨fun _ => ⟨_, read, Definition.readFrom_unflatten fits ..⟩, fun _ => fits⟩
  | some entry =>
    have refused := Definition.parse_of_misfit found name superclass annotations
    constructor
    · intro e
      simp [refused, eq_comm]
    · constructor
      · intro fits
        have fit := Definition.misfits_eq_false_iff.2 (fits entry (List.mem_of_find?_eq_some found))
        rw [List.find?_some found] at fit
        cases fit
      · rintro ⟨d, read, _⟩
        rw [refused] at read
        cases read

/-- Defines a class with a member and a static of one name, and a static whose name has the marker in
front. -/
def mixed : Definition where
  name := "A"
  superclass := "B"
  members := [("x", .null), ("y", .integer 1)]
  statics := [("§x", .null), ("x", .integer 2)]
  initializer := some ⟨0⟩
  annotations := some [("a", .null), ("a", .integer 3)]

/-- A flat form of this class. -/
def mixedEntries : List (String × Value) :=
  [(Definition.marked '§' "§x", .null), ("x", .null), (Definition.marked '§' "", .function ⟨0⟩),
    (Definition.marked '§' "x", .integer 2), ("y", .integer 1)]

/-- What was mixed is told apart, and of what is repeated the last counts. -/
theorem mixed_is_read_back :
    mixed.Plain '§' ∧
      Definition.Flattens '§' mixed.members mixed.statics mixed.initializer mixedEntries ∧
      Definition.parse "A" "B" mixedEntries mixed.annotations '§' = .ok mixed ∧
      ∃ d, Definition.parse "A" "" [("x", .null), (Definition.marked '§' "", .function ⟨0⟩),
          ("x", .integer 1), (Definition.marked '§' "", .function ⟨1⟩)] none '§' = .ok d ∧
        d.members.lookup "x" = some (.integer 1) ∧
        d.initializer.map Value.function = some (.function ⟨1⟩) := by
  have plain : mixed.Plain '§' := ⟨by decide, by decide +kernel, by decide, by decide⟩
  have flat : Definition.Flattens '§' mixed.members mixed.statics mixed.initializer mixedEntries :=
    .static "§x" .null <| .member "x" .null <| .initializer ⟨0⟩ <| .static "x" (.integer 2) <|
      .member "y" (.integer 1) .nil
  have undone := flattening_is_undone '§'
  have other : "x" ≠ Definition.marked '§' "" := by decide +kernel
  obtain ⟨d, read, kept⟩ := (undone.2 "A" "" [("x", .null), (Definition.marked '§' "", .function ⟨0⟩),
    ("x", .integer 1), (Definition.marked '§' "", .function ⟨1⟩)] none).2.1 (by simp [other])
  refine ⟨plain, flat, undone.1 mixed mixedEntries plain flat, d, read, ?_, ?_⟩
  · rw [kept.member "x" (by decide +kernel)]
    decide +kernel
  · rw [kept.initializer]
    decide +kernel

end ProtoClass
