import ProtoClass.Proofs.Tables

set_option autoImplicit false

/- A property table is a plain list of properties, in the order in which their names came, to everyone
who changes or reads it. The list knows of no index: it is searched from its front, changed in place or
at its end, and filtered. Whatever calls are made, table and list give the same answers and end with
the same properties, and the index has each name at the position of its property. -/
namespace ProtoClass

/-- A change that is asked of a property table. -/
inductive TableCall where
  | set (name : String) (value : Value)
  | define (name : String) (value : Value) (flags : Flags)
  | delete (name : String)
  deriving DecidableEq

namespace TableCall

/-- The name whose property is to change. -/
def name : TableCall → String
  | set name _ => name
  | define name _ _ => name
  | delete name => name

/-- The property that the call makes of a name that is not there. -/
def added? : TableCall → Option Property
  | set name value => some ⟨name, value, .plain⟩
  | define name value flags => some ⟨name, value, flags⟩
  | delete _ => none

/-- Makes the call on the two bare parts of a table: was it accepted, and what is left? -/
def onRaw (call : TableCall) (t : RawTable) : Bool × RawTable :=
  match call with
  | set name value => t.set name value
  | define name value flags => t.define name value flags
  | delete name => t.delete name

def onTable (call : TableCall) (t : PropertyTable) : Bool × PropertyTable :=
  match call with
  | set name value => t.set name value
  | define name value flags => t.define name value flags
  | delete name => t.delete name

/-- What a list has under a name. -/
def lookup (l : List Property) (name : String) : Option Property :=
  l.find? fun p => p.name == name

/-- A list refuses to assign to what is not writable, to define anew what is not configurable, and to
delete what is not there or not configurable. -/
def isRefused (l : List Property) : TableCall → Bool
  | set name _ => (lookup l name).any fun p => !p.flags.writable
  | define name _ _ => (lookup l name).any fun p => !p.flags.configurable
  | delete name => (lookup l name).all fun p => !p.flags.configurable

/-- What an accepted call makes of a list: a property that is there changes in its place, a new one comes
last, and a deletion keeps the order of the rest. -/
def amend (l : List Property) : TableCall → List Property
  | set name value =>
    if (lookup l name).isSome then l.map fun p => if p.name = name then { p with value } else p
    else l ++ [⟨name, value, .plain⟩]
  | define name value flags =>
    if (lookup l name).isSome then
      l.map fun p => if p.name = name then { p with value, flags } else p
    else l ++ [⟨name, value, flags⟩]
  | delete name => l.filter fun p => p.name ≠ name

def onList (call : TableCall) (l : List Property) : Bool × List Property :=
  if call.isRefused l then (false, l) else (true, call.amend l)

/-- Makes calls one after another: all answers, and what is left at the end. -/
def run {σ : Type} (make : TableCall → σ → Bool × σ) : List TableCall → σ → List Bool × σ
  | [], s => ([], s)
  | call :: calls, s =>
    let rest := run make calls (make call s).2
    ((make call s).1 :: rest.1, rest.2)

theorem run_append {σ : Type} (make : TableCall → σ → Bool × σ) (calls later : List TableCall) (s : σ) :
    (run make (calls ++ later) s).2 = (run make later (run make calls s).2).2 := by
  induction calls generalizing s with
  | nil => rfl
  | cons call calls ih => exact ih (make call s).2

/-- Two ways to make calls go side by side when each single call does. -/
theorem run_related {σ τ : Type} {make : TableCall → σ → Bool × σ} {make' : TableCall → τ → Bool × τ}
    {related : σ → τ → Prop}
    (step : ∀ call s s', related s s' →
      (make call s).1 = (make' call s').1 ∧ related (make call s).2 (make' call s').2)
    (calls : List TableCall) {s : σ} {s' : τ} (start : related s s') :
    (run make calls s).1 = (run make' calls s').1 ∧
      related (run make calls s).2 (run make' calls s').2 := by
  induction calls generalizing s s' with
  | nil => exact ⟨rfl, start⟩
  | cons call calls ih =>
    obtain ⟨answer, next⟩ := step call s s' start
    obtain ⟨answers, last⟩ := ih next
    exact ⟨congrArg₂ List.cons answer answers, last⟩

/-- What no call of a run changes, the run does not change. -/
theorem run_unchanged {σ α : Type} {make : TableCall → σ → Bool × σ} {calls : List TableCall}
    (view : σ → α) (step : ∀ call ∈ calls, ∀ s, view (make call s).2 = view s) (s : σ) :
    view (run make calls s).2 = view s := by
  induction calls generalizing s with
  | nil => rfl
  | cons call calls ih =>
    have rest := ih (fun later member => step later (List.mem_cons_of_mem _ member)) (make call s).2
    exact rest.trans (step call List.mem_cons_self s)

section Raw

variable {t : RawTable} (coherent : t.Coherent)
include coherent

theorem onRaw_set (name : String) (value : Value) :
    ((set name value).onRaw t).1 = ((set name value).onList t.entries.toList).1 ∧
      ((set name value).onRaw t).2.entries.toList = ((set name value).onList t.entries.toList).2 := by
  rw [onList, isRefused, amend, lookup, ← coherent.get?_eq_find?, onRaw, RawTable.set]
  cases found : t.get? name with
  | none => simp [RawTable.push]
  | some p =>
    by_cases writable : p.flags.writable = true
    · -- the entry of this name is the one that was found, so its flags are those that are kept
      have kept : ∀ q ∈ t.entries.toList,
          (if q.name = name then (⟨name, value, p.flags⟩ : Property) else q) =
            if q.name = name then { q with value } else q := by
        intro q member
        by_cases same : q.name = name
        · have again := coherent.get?_eq_some_iff.2 ⟨Array.mem_toList_iff.1 member, same⟩
          obtain rfl : p = q := Option.some.inj (found.symm.trans again)
          rw [if_pos same, if_pos same, same]
        · rw [if_neg same, if_neg same]
      simp [writable, coherent.toList_overwrite, List.map_congr_left kept]
    · simp [writable]

theorem onRaw_define (name : String) (value : Value) (flags : Flags) :
    ((define name value flags).onRaw t).1 =
        ((define name value flags).onList t.entries.toList).1 ∧
      ((define name value flags).onRaw t).2.entries.toList =
        ((define name value flags).onList t.entries.toList).2 := by
  rw [onList, isRefused, amend, lookup, ← coherent.get?_eq_find?, onRaw, RawTable.define]
  cases found : t.get? name with
  | none => simp [RawTable.push]
  | some p =>
    by_cases configurable : p.flags.configurable = true
    · have kept : ∀ q ∈ t.entries.toList,
          (if q.name = name then (⟨name, value, flags⟩ : Property) else q) =
            if q.name = name then { q with value, flags } else q := by
        intro q _
        by_cases same : q.name = name
        · rw [if_pos same, if_pos same, same]
        · rw [if_neg same, if_neg same]
      simp [configurable, coherent.toList_overwrite, List.map_congr_left kept]
    · simp [configurable]

theorem onRaw_delete (name : String) :
    ((delete name).onRaw t).1 = ((delete name).onList t.entries.toList).1 ∧
      ((delete name).onRaw t).2.entries.toList = ((delete name).onList t.entries.toList).2 := by
  rw [onList, isRefused, amend, lookup, ← coherent.get?_eq_find?, onRaw, RawTable.delete]
  cases found : t.get? name with
  | none => simp
  | some p =>
    by_cases configurable : p.flags.configurable = true
    · simp [configurable, coherent.toList_erase]
    · simp [configurable]

/-- A table answers a call as its list does, and is left with what the list is left with. -/
theorem onRaw_onList (call : TableCall) :
    (call.onRaw t).1 = (call.onList t.entries.toList).1 ∧
      (call.onRaw t).2.entries.toList = (call.onList t.entries.toList).2 := by
  cases call with
  | set name value => exact onRaw_set coherent name value
  | define name value flags => exact onRaw_define coherent name value flags
  | delete name => exact onRaw_delete coherent name

end Raw

variable (call : TableCall) (t : PropertyTable)

theorem raw_onTable : (call.onTable t).1 = (call.onRaw t.raw).1 ∧
    (call.onTable t).2.raw = (call.onRaw t.raw).2 := by
  cases call <;> exact ⟨rfl, rfl⟩

theorem onTable_onList : (call.onTable t).1 = (call.onList t.toList).1 ∧
    (call.onTable t).2.toList = (call.onList t.toList).2 := by
  obtain ⟨answer, left⟩ := raw_onTable call t
  rw [answer, PropertyTable.toList, PropertyTable.toList, left]
  exact onRaw_onList t.coherent call

theorem get?_eq_lookup (name : String) : t.get? name = lookup t.toList name :=
  t.coherent.get?_eq_find? name

theorem onTable_refused (refused : (call.onTable t).1 = false) : (call.onTable t).2 = t := by
  cases call with
  | set name value => exact PropertyTable.set_refused refused
  | define name value flags => exact PropertyTable.define_refused refused
  | delete name => exact PropertyTable.delete_refused refused

theorem get?_onTable_of_ne {name : String} (other : call.name ≠ name) :
    (call.onTable t).2.get? name = t.get? name := by
  cases call with
  | set _ value => exact (t.get?_set _ value name).trans (if_neg (Ne.symm other))
  | define _ value flags => exact (t.get?_define _ value flags name).trans (if_neg (Ne.symm other))
  | delete _ => exact (t.get?_delete _ name).trans (if_neg (Ne.symm other))

/-- An accepted deletion leaves nothing under the name. -/
theorem get?_of_deleted {name : String} (accepted : ((delete name).onTable t).1 = true) :
    ((delete name).onTable t).2.get? name = none := by
  rw [(onTable_onList _ t).1, onList] at accepted
  rw [get?_eq_lookup, (onTable_onList _ t).2, onList]
  cases refused : (delete name).isRefused t.toList with
  | true => simp [refused] at accepted
  | false => simp [amend, lookup]

/-- Under a name that is not there every property is accepted, and comes last. -/
theorem toList_added {p : Property} (absent : t.get? p.name = none) (added : call.added? = some p) :
    (call.onTable t).1 = true ∧ (call.onTable t).2.toList = t.toList ++ [p] := by
  rw [(call.onTable_onList t).1, (call.onTable_onList t).2]
  rw [get?_eq_lookup] at absent
  cases call with
  | set name value =>
    obtain rfl := Option.some.inj added
    simp [onList, isRefused, amend, absent]
  | define name value flags =>
    obtain rfl := Option.some.inj added
    simp [onList, isRefused, amend, absent]
  | delete name => cases added

theorem get?_run_of_ne {calls : List TableCall} {name : String}
    (others : ∀ call ∈ calls, call.name ≠ name) : (run onTable calls t).2.get? name = t.get? name :=
  run_unchanged (fun t => t.get? name)
    (fun call member t => get?_onTable_of_ne call t (others call member)) t

end TableCall

/-- A table shows to its readers what a list has, and its index is exactly that of the list's names. -/
structure Refines (t : PropertyTable) (l : List Property) : Prop where
  /-- All properties in their order. -/
  toList : t.toList = l
  distinct : (l.map Property.name).Nodup
  /-- The index has each name at the position of its property, and has no other name. -/
  index : ∀ (name : String) (i : Nat),
    t.raw.index[name]? = some i ↔ (l[i]?).map Property.name = some name
  /-- A position that the index has is one of an entry. -/
  inside : ∀ (name : String) (i : Nat), t.raw.index[name]? = some i → i < t.raw.entries.size
  get? : ∀ name, t.get? name = TableCall.lookup l name
  contains : ∀ name, t.contains name = (TableCall.lookup l name).isSome
  size : t.size = l.length
  isEmpty : t.isEmpty = l.isEmpty
  keys : t.keys = (l.filter fun p => p.flags.enumerable).map Property.name

theorem refines_toList (t : PropertyTable) : Refines t t.toList where
  toList := rfl
  distinct := t.coherent.nodup_names
  index name i := by
    rw [t.coherent name i, PropertyTable.toList, Array.getElem?_toList]
  inside name i index := by
    obtain ⟨p, stored, _⟩ := Option.map_eq_some_iff.1 ((t.coherent name i).1 index)
    exact (Array.getElem?_eq_some_iff.1 stored).1
  get? := TableCall.get?_eq_lookup t
  contains name := by
    rw [← TableCall.get?_eq_lookup, PropertyTable.contains, RawTable.contains,
      Std.TreeMap.contains_eq_isSome_getElem?, PropertyTable.get?]
    cases index : t.raw.index[name]? with
    | none => rw [RawTable.get?, index]; rfl
    | some i =>
      obtain ⟨p, stored, _⟩ := Option.map_eq_some_iff.1 ((t.coherent name i).1 index)
      rw [RawTable.get?, index, Option.bind_some, stored]
      rfl
  size := t.length_toList.symm
  isEmpty := by
    rw [PropertyTable.isEmpty, ← t.length_toList]
    cases t.toList <;> rfl
  keys := rfl

/-- The table that calls leave of an empty one. -/
def TableCall.after (calls : List TableCall) : PropertyTable := (run onTable calls .empty).2

/-- Calls on an empty table are answered as on an empty list. -/
structure AnswersInOrder (calls : List TableCall) : Prop where
  /-- The two parts of the table are what the calls make of two empty parts. -/
  raw : (TableCall.after calls).raw = (TableCall.run TableCall.onRaw calls {}).2
  answers :
    (TableCall.run TableCall.onTable calls .empty).1 = (TableCall.run TableCall.onList calls []).1
  refines : Refines (TableCall.after calls) (TableCall.run TableCall.onList calls []).2
  refused : ∀ call : TableCall, (call.onTable (TableCall.after calls)).1 = false →
    (call.onTable (TableCall.after calls)).2 = TableCall.after calls
  /-- A name that was deleted, and that no call was about since, comes back at the end. -/
  restored : ∀ (name : String) (since : List TableCall),
    ((TableCall.delete name).onTable (TableCall.after calls)).1 = true →
    (∀ call ∈ since, call.name ≠ name) → ∀ (call : TableCall) (p : Property),
    call.added? = some p → p.name = name →
    (call.onTable (TableCall.after (calls ++ .delete name :: since))).1 = true ∧
      (call.onTable (TableCall.after (calls ++ .delete name :: since))).2.toList =
        (TableCall.after (calls ++ .delete name :: since)).toList ++ [p]

/-- Property tables are ordered lists. -/
theorem tables_answer_in_order (calls : List TableCall) : AnswersInOrder calls := by
  have listed := TableCall.run_related
    (fun call t l (same : PropertyTable.toList t = l) => same ▸ TableCall.onTable_onList call t)
    calls PropertyTable.toList_empty
  constructor
  case raw =>
    exact (TableCall.run_related
      (fun call t r (same : PropertyTable.raw t = r) => same ▸ TableCall.raw_onTable call t)
      calls rfl).2
  case answers => exact listed.1
  case refines => exact listed.2 ▸ refines_toList (TableCall.after calls)
  case refused =>
    intro call refused
    exact call.onTable_refused _ refused
  case restored =>
    intro name since accepted others call p added named
    have absent : (TableCall.after (calls ++ .delete name :: since)).get? p.name = none := by
      rw [TableCall.after, TableCall.run_append, named]
      exact (TableCall.get?_run_of_ne _ others).trans (TableCall.get?_of_deleted _ accepted)
    exact call.toList_added _ absent added

/-- A name in the middle goes and comes back last; a pinned one stays where it is. -/
example : (TableCall.after [.set "a" .undefined, .define "b" .undefined .plain,
    .define "c" .undefined .hidden, .delete "c", .delete "b", .set "b" .null]).names = ["a", "c", "b"] := by
  decide +kernel

end ProtoClass
