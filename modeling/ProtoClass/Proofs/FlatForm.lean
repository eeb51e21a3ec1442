import Mathlib.Data.List.Induction
import Mathlib.Data.List.Nodup
import ProtoClass.Definition
import ProtoClass.Options

set_option autoImplicit false

namespace ProtoClass

namespace Named

variable {α : Type}

theorem nodup_put {name : String} {x : α} {l : List (String × α)}
    (distinct : (l.map Prod.fst).Nodup) : ((put name x l).map Prod.fst).Nodup := by
  by_cases old : name ∈ l.map Prod.fst
  · rw [map_fst_put_of_mem x old]
    exact distinct
  · rw [put_of_not_mem x old, List.map_append, List.map_singleton]
    refine List.nodup_append.2 ⟨distinct, List.pairwise_singleton _ _, ?_⟩
    rintro a member b last rfl
    rw [List.mem_singleton.1 last] at member
    exact old member

/-- Puts entries one after another. -/
def putAll (entries l : List (String × α)) : List (String × α) :=
  entries.foldl (fun l entry => put entry.1 entry.2 l) l

theorem putAll_concat (entries l : List (String × α)) (entry : String × α) :
    putAll (entries ++ [entry]) l = put entry.1 entry.2 (putAll entries l) := by
  rw [putAll, List.foldl_append]
  rfl

/-- Under each name stands what was put there last. -/
theorem lookup_putAll (entries : List (String × α)) (name : String) :
    (putAll entries []).lookup name = entries.reverse.lookup name := by
  induction entries using List.reverseRecOn with
  | nil => rfl
  | append_singleton entries entry ih =>
    rw [putAll_concat, lookup_put, ih, List.reverse_append, List.reverse_singleton,
      List.singleton_append, List.lookup_cons]
    by_cases same : name = entry.1
    · rw [if_pos same, beq_iff_eq.2 same]
    · rw [if_neg same, beq_eq_false_iff_ne.2 same]

/-- The names stand in the order in which each came first. -/
theorem names_putAll (entries : List (String × α)) :
    (putAll entries []).map Prod.fst = (entries.map Prod.fst).eraseDups := by
  induction entries using List.reverseRecOn with
  | nil => rfl
  | append_singleton entries entry ih =>
    rw [putAll_concat, List.map_append, List.eraseDups_append, ← ih, List.map_singleton]
    by_cases old : entry.1 ∈ (putAll entries []).map Prod.fst
    · rw [map_fst_put_of_mem _ old]
      rw [ih, List.mem_eraseDups] at old
      simp [old, List.removeAll]
    · rw [put_of_not_mem _ old, List.map_append]
      rw [ih, List.mem_eraseDups] at old
      simp [old, List.removeAll, List.eraseDups_cons]

theorem nodup_putAll (entries : List (String × α)) :
    ((putAll entries []).map Prod.fst).Nodup := by
  induction entries using List.reverseRecOn with
  | nil => exact List.nodup_nil
  | append_singleton entries entry ih =>
    rw [putAll_concat]
    exact nodup_put ih

theorem putAll_of_nodup {l : List (String × α)} (distinct : (l.map Prod.fst).Nodup) :
    putAll l [] = l := by
  induction l using List.reverseRecOn with
  | nil => rfl
  | append_singleton l entry ih =>
    rw [List.map_append, List.map_singleton, List.nodup_append] at distinct
    obtain ⟨before, _, apart⟩ := distinct
    have new : entry.1 ∉ l.map Prod.fst := fun old =>
      apart entry.1 old entry.1 (List.mem_singleton_self _) rfl
    rw [putAll_concat, ih before, put_of_not_mem _ new]

/-- Where each name stands once, it does not matter from which end it is looked for. -/
theorem lookup_reverse {l : List (String × α)} (distinct : (l.map Prod.fst).Nodup) (name : String) :
    l.reverse.lookup name = l.lookup name := by
  induction l with
  | nil => rfl
  | cons entry rest ih =>
    obtain ⟨new, distinct⟩ := List.nodup_cons.1 distinct
    rw [List.reverse_cons, List.lookup_append, ih distinct, List.lookup_cons, List.lookup_cons,
      List.lookup_nil]
    by_cases same : name = entry.1
    · have absent : rest.lookup name = none := by
        rw [List.lookup_eq_none_iff]
        intro later member
        refine bne_iff_ne.2 fun again => new ?_
        exact List.mem_map.2 ⟨later, member, again.symm.trans same⟩
      rw [absent, beq_iff_eq.2 same]
      rfl
    · rw [beq_eq_false_iff_ne.2 same, Option.or_none]

theorem mem_of_lookup_reverse {l : List (String × α)} {name : String} {x : α}
    (found : l.reverse.lookup name = some x) : (name, x) ∈ l := by
  obtain ⟨before, after, all, _⟩ := List.lookup_eq_some_iff.1 found
  rw [← List.mem_reverse, all]
  exact List.mem_append_right _ List.mem_cons_self

/-- What is left out does not hide what is not. -/
theorem lookup_filter {keep : String × α → Bool} {name : String} (kept : ∀ x, keep (name, x) = true)
    (l : List (String × α)) : (l.filter keep).lookup name = l.lookup name := by
  induction l with
  | nil => rfl
  | cons entry rest ih =>
    obtain ⟨n, x⟩ := entry
    by_cases same : name = n
    · subst same
      rw [List.filter_cons_of_pos (kept x), List.lookup_cons_self, List.lookup_cons_self]
    · rw [List.lookup_cons, beq_eq_false_iff_ne.2 same, ← ih, List.filter_cons]
      split
      · rw [List.lookup_cons, beq_eq_false_iff_ne.2 same]
      · rfl

theorem lookup_reverse_putAll (entries : List (String × α)) (name : String) :
    (putAll entries []).reverse.lookup name = entries.reverse.lookup name :=
  (lookup_reverse (nodup_putAll entries) name).trans (lookup_putAll entries name)

end Named

namespace Definition

/-- The key with the marker in front of it; of the empty key this is the bare marker. -/
def marked (marker : Char) (key : String) : String := String.ofList (marker :: key.toList)

theorem unmarked?_eq_some_iff {marker : Char} {key rest : String} :
    unmarked? marker key = some rest ↔ key = marked marker rest := by
  rw [unmarked?, marked, ← String.toList_inj, String.toList_ofList]
  cases chars : key.toList with
  | nil => simp
  | cons c others =>
    by_cases same : c = marker
    · simp [same, ← String.toList_inj]
    · simp [same]

theorem unmarked?_eq_none_iff {marker : Char} {key : String} :
    unmarked? marker key = none ↔ Options.startsWithMarker marker key = false := by
  rw [unmarked?, Options.startsWithMarker]
  cases key.toList with
  | nil => simp
  | cons c rest => by_cases same : c = marker <;> simp [same]

theorem unmarked?_marked (marker : Char) (key : String) :
    unmarked? marker (marked marker key) = some key :=
  unmarked?_eq_some_iff.2 rfl

theorem marked_injective (marker : Char) : Function.Injective (marked marker) := by
  intro key other same
  have read := unmarked?_marked marker key
  rw [same, unmarked?_marked] at read
  exact (Option.some.inj read).symm

theorem marked_ne_of_unmarked {marker : Char} {key : String} (unmarked : unmarked? marker key = none)
    (rest : String) : marked marker rest ≠ key := by
  rintro rfl
  rw [unmarked?_marked] at unmarked
  cases unmarked

/-- The entries that stand for members. -/
def memberEntries (marker : Char) (entries : List (String × Value)) : List (String × Value) :=
  entries.filter fun entry => (unmarked? marker entry.1).isNone

/-- The entries that stand for statics, without the marker. -/
def staticEntries (marker : Char) (entries : List (String × Value)) : List (String × Value) :=
  entries.filterMap fun entry => (unmarked? marker entry.1).map fun key => (key, entry.2)

/-- What the flat form says: the last value under each key, and the last static initializer. -/
def unflatten (marker : Char) (name superclass : String) (entries : List (String × Value))
    (annotations : Option (List (String × Value))) : Definition where
  name := name
  superclass := superclass
  members := Named.putAll (memberEntries marker entries) []
  statics := Named.putAll ((staticEntries marker entries).filter fun entry => entry.1 ≠ "") []
  initializer := (entries.reverse.lookup (marked marker "")).bind Value.function?
  annotations := annotations

section Flat

variable {marker : Char} {entries : List (String × Value)}

/-- An entry that is added is the last one that the definition says, unless it stands under the bare
marker and is no function. -/
theorem addEntry_unflatten {entry : String × Value}
    (fits : entry.1 = marked marker "" → ∃ f, entry.2 = .function f) (name superclass : String)
    (annotations : Option (List (String × Value))) :
    addEntry marker (unflatten marker name superclass entries annotations) entry =
      .ok (unflatten marker name superclass (entries ++ [entry]) annotations) := by
  have statics : staticEntries marker (entries ++ [entry]) =
      staticEntries marker entries ++ staticEntries marker [entry] := List.filterMap_append
  have members : memberEntries marker (entries ++ [entry]) =
      memberEntries marker entries ++ memberEntries marker [entry] := List.filter_append ..
  rw [unflatten, unflatten, statics, members, List.filter_append, List.reverse_append,
    List.reverse_singleton, List.singleton_append, List.lookup_cons, addEntry]
  cases read : unmarked? marker entry.1 with
  | none =>
    have static : staticEntries marker [entry] = [] := by simp [staticEntries, read]
    have member : memberEntries marker [entry] = [entry] := by simp [memberEntries, read]
    rw [static, member, List.filter_nil, List.append_nil,
      beq_eq_false_iff_ne.2 (marked_ne_of_unmarked read ""), Named.putAll_concat]
    rfl
  | some key =>
    have form := unmarked?_eq_some_iff.1 read
    have static : staticEntries marker [entry] = [(key, entry.2)] := by simp [staticEntries, read]
    have member : memberEntries marker [entry] = [] := by simp [memberEntries, read]
    rw [static, member, List.append_nil]
    by_cases bare : key = ""
    · subst bare
      obtain ⟨f, value⟩ := fits form
      rw [List.filter_cons_of_neg (by simp), List.filter_nil, List.append_nil, value, form,
        beq_self_eq_true]
      rfl
    · have other : marked marker "" ≠ entry.1 := fun same =>
        bare (marked_injective marker (form.symm.trans same.symm))
      rw [List.filter_cons_of_pos (by simpa using bare), List.filter_nil,
        beq_eq_false_iff_ne.2 other, Named.putAll_concat]
      dsimp only
      rw [if_neg bare]
      rfl

/-- When all that stands under the bare marker is a function, the flat form can be read. -/
theorem parse_eq_unflatten
    (fits : ∀ entry ∈ entries, entry.1 = marked marker "" → ∃ f, entry.2 = .function f)
    (name superclass : String) (annotations : Option (List (String × Value))) :
    parse name superclass entries annotations marker =
      .ok (unflatten marker name superclass entries annotations) := by
  induction entries using List.reverseRecOn with
  | nil => rfl
  | append_singleton entries entry ih =>
    -- the last entry is put after all others, as `unflatten` puts it
    obtain ⟨before, last⟩ := List.forall_mem_append.1 fits
    have added : addEntry marker (unflatten marker name superclass entries annotations) entry =
        .ok (unflatten marker name superclass (entries ++ [entry]) annotations) :=
      addEntry_unflatten (last entry (List.mem_singleton_self entry)) name superclass annotations
    rw [parse, List.foldlM_append, ← parse, ih before]
    exact (bind_pure _).trans added

/-- Without an entry under the bare marker the flat form can be read. -/
theorem parse_eq_ok (plain : ∀ entry ∈ entries, entry.1 ≠ marked marker "")
    (name superclass : String) (annotations : Option (List (String × Value))) :
    parse name superclass entries annotations marker = .ok
      { name, superclass, annotations
        members := Named.putAll (memberEntries marker entries) []
        statics := Named.putAll (staticEntries marker entries) [] } := by
  have named : (staticEntries marker entries).filter (fun entry => entry.1 ≠ "") =
      staticEntries marker entries := by
    rw [List.filter_eq_self]
    intro static member
    obtain ⟨entry, given, key⟩ := List.mem_filterMap.1 member
    obtain ⟨rest, read, rfl⟩ := Option.map_eq_some_iff.1 key
    rw [decide_eq_true_iff]
    rintro rfl
    exact plain entry given (unmarked?_eq_some_iff.1 read)
  have uninitialized : entries.reverse.lookup (marked marker "") = none := by
    rw [List.lookup_eq_none_iff]
    intro entry member
    exact bne_iff_ne.2 (plain entry (List.mem_reverse.1 member)).symm
  rw [parse_eq_unflatten fun entry member bare => absurd bare (plain entry member), unflatten, named,
    uninitialized]
  rfl

theorem mem_of_initializer {name superclass : String} {annotations : Option (List (String × Value))}
    {f : FunctionRef}
    (set : (unflatten marker name superclass entries annotations).initializer = some f) :
    (marked marker "", .function f) ∈ entries := by
  obtain ⟨value, found, function⟩ := Option.bind_eq_some_iff.1 set
  cases value with
  | function g =>
    cases function
    exact Named.mem_of_lookup_reverse found
  | _ => cases function

theorem lookup_memberEntries {key : String} (unmarked : unmarked? marker key = none)
    (l : List (String × Value)) : (memberEntries marker l).lookup key = l.lookup key :=
  Named.lookup_filter (fun _ => by rw [unmarked]; rfl) l

theorem lookup_staticEntries (key : String) (l : List (String × Value)) :
    (staticEntries marker l).lookup key = l.lookup (marked marker key) := by
  induction l with
  | nil => rfl
  | cons entry rest ih =>
    cases read : unmarked? marker entry.1 with
    | none =>
      rw [List.lookup_cons, beq_eq_false_iff_ne.2 (marked_ne_of_unmarked read key), ← ih,
        staticEntries, staticEntries, List.filterMap_cons_none (by rw [read]; rfl)]
    | some rest =>
      have form := unmarked?_eq_some_iff.1 read
      rw [staticEntries, List.filterMap_cons_some (by rw [read]; rfl), List.lookup_cons,
        List.lookup_cons, ← staticEntries, ih, form]
      by_cases same : key = rest
      · rw [same, beq_self_eq_true, beq_self_eq_true]
      · have apart : marked marker key ≠ marked marker rest := (marked_injective marker).ne same
        rw [beq_eq_false_iff_ne.2 same, beq_eq_false_iff_ne.2 apart]

theorem lookup_reverse_memberEntries {key : String} (unmarked : unmarked? marker key = none)
    (l : List (String × Value)) : (memberEntries marker l).reverse.lookup key = l.reverse.lookup key := by
  rw [memberEntries, ← List.filter_reverse, ← memberEntries, lookup_memberEntries unmarked]

theorem lookup_reverse_staticEntries (key : String) (l : List (String × Value)) :
    (staticEntries marker l).reverse.lookup key = l.reverse.lookup (marked marker key) := by
  rw [staticEntries, ← List.filterMap_reverse, ← staticEntries, lookup_staticEntries]

theorem isNone_unmarked? (marker : Char) :
    (fun key => (unmarked? marker key).isNone) = fun key => !Options.startsWithMarker marker key := by
  funext key
  rw [Bool.eq_iff_iff, Option.isNone_iff_eq_none, unmarked?_eq_none_iff, Bool.not_eq_true']

theorem names_memberEntries :
    (memberEntries marker entries).map Prod.fst =
      (entries.map Prod.fst).filter fun key => (unmarked? marker key).isNone := by
  rw [memberEntries, List.filter_map]
  rfl

theorem names_staticEntries :
    (staticEntries marker entries).map Prod.fst =
      (entries.map Prod.fst).filterMap (unmarked? marker) := by
  rw [staticEntries, List.map_filterMap, List.filterMap_map]
  refine congrArg (fun f => entries.filterMap f) (funext fun entry => ?_)
  rw [Function.comp_apply, Option.map_map]
  exact congrFun Option.map_id (unmarked? marker entry.1)

end Flat

/-- Does an entry stand under the bare marker without being a function? -/
def misfits (marker : Char) (entry : String × Value) : Bool :=
  decide (entry.1 = marked marker "") && entry.2.function?.isNone

variable {marker : Char} {entry : String × Value}

theorem misfits_eq_false_iff :
    misfits marker entry = false ↔ (entry.1 = marked marker "" → ∃ f, entry.2 = .function f) := by
  obtain ⟨key, value⟩ := entry
  cases value <;> simp [misfits, Value.function?]

theorem addEntry_of_misfit (wrong : misfits marker entry = true) (d : Definition) :
    addEntry marker d entry =
      .error (.typeError (.initializerNotFunction d.name entry.2.kindName)) := by
  obtain ⟨key, value⟩ := entry
  rw [misfits, Bool.and_eq_true, decide_eq_true_iff] at wrong
  rw [addEntry, unmarked?_eq_some_iff.2 wrong.1]
  cases value with
  | function f => cases wrong.2
  | _ => rfl

variable {entries : List (String × Value)}

theorem fits_of_find?_eq_none (found : entries.find? (misfits marker) = none) :
    ∀ entry ∈ entries, entry.1 = marked marker "" → ∃ f, entry.2 = .function f := by
  intro entry member
  exact misfits_eq_false_iff.1 (Bool.eq_false_iff.2 (List.find?_eq_none.1 found entry member))

/-- Without a misfit the flat form can be read. -/
theorem parse_of_fit (found : entries.find? (misfits marker) = none) (name superclass : String)
    (annotations : Option (List (String × Value))) :
    parse name superclass entries annotations marker =
      .ok (unflatten marker name superclass entries annotations) :=
  parse_eq_unflatten (fits_of_find?_eq_none found) name superclass annotations

/-- The first entry that does not fit decides about the error. -/
theorem parse_of_misfit (found : entries.find? (misfits marker) = some entry) (name superclass : String)
    (annotations : Option (List (String × Value))) :
    parse name superclass entries annotations marker =
      .error (.typeError (.initializerNotFunction name entry.2.kindName)) := by
  -- what comes before the entry can be read, and what comes after it is not looked at
  obtain ⟨wrong, before, after, rfl, fit⟩ := List.find?_eq_some_iff_append.1 found
  have fits : ∀ entry ∈ before, entry.1 = marked marker "" → ∃ f, entry.2 = .function f := by
    intro entry member
    apply misfits_eq_false_iff.1
    rw [← Bool.not_eq_true', fit entry member]
  have read := parse_eq_unflatten fits name superclass annotations
  rw [parse, List.foldlM_append, ← parse, read]
  exact congrArg (· >>= fun d => after.foldlM (addEntry marker) d) (addEntry_of_misfit wrong _)

/-- What was read is what the flat form says. -/
theorem eq_unflatten_of_parse {name superclass : String}
    {annotations : Option (List (String × Value))} {d : Definition}
    (parsed : parse name superclass entries annotations marker = .ok d) :
    d = unflatten marker name superclass entries annotations := by
  cases found : entries.find? (misfits marker) with
  | none =>
    rw [parse_of_fit found] at parsed
    exact (Except.ok.inj parsed).symm
  | some entry =>
    rw [parse_of_misfit found] at parsed
    cases parsed

/-- Members have distinct names, and each the last value that was given under its key. -/
theorem parse_members {name superclass : String} {annotations : Option (List (String × Value))}
    {d : Definition} (parsed : parse name superclass entries annotations marker = .ok d) :
    (d.members.map Prod.fst).Nodup ∧ ∀ key, unmarked? marker key = none →
      d.members.lookup key = entries.reverse.lookup key := by
  rw [eq_unflatten_of_parse parsed, unflatten]
  refine ⟨Named.nodup_putAll _, fun key unmarked => ?_⟩
  rw [Named.lookup_putAll, lookup_reverse_memberEntries unmarked]

end Definition

end ProtoClass
