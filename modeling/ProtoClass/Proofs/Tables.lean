import Mathlib.Data.List.Induction
import Mathlib.Data.List.Nodup
import ProtoClass.Property.Table

set_option autoImplicit false

namespace ProtoClass

namespace RawTable

variable {t : RawTable}

/-- The entry at a position has a name when the index has that position for the name. -/
theorem Coherent.index_eq_some_iff_name (coherent : t.Coherent) {p : Property} {i : Nat} {name : String}
    (stored : t.entries.toList[i]? = some p) : t.index[name]? = some i ↔ p.name = name := by
  rw [coherent, ← Array.getElem?_toList, stored, Option.map_some, Option.some_inj]

theorem Coherent.nodup_names (coherent : t.Coherent) :
    (t.entries.toList.map Property.name).Nodup := by
  rw [List.Nodup, List.pairwise_map, List.pairwise_iff_getElem]
  intro i j i_inside j_inside before same
  have at_i := (coherent.index_eq_some_iff_name (List.getElem?_eq_getElem i_inside)).2 same
  have at_j := (coherent.index_eq_some_iff_name (List.getElem?_eq_getElem j_inside)).2 rfl
  rw [at_i, Option.some_inj] at at_j
  omega

theorem Coherent.ne_of_index_eq_none (coherent : t.Coherent) {p : Property} {name : String}
    (absent : t.index[name]? = none) (member : p ∈ t.entries.toList) : p.name ≠ name := by
  intro same
  obtain ⟨i, stored⟩ := List.getElem?_of_mem member
  rw [(coherent.index_eq_some_iff_name stored).2 same] at absent
  cases absent

/-- What stands in the place of a property of the same name has that name, too. -/
theorem name_replaced (p q : Property) : (if q.name = p.name then p else q).name = q.name := by
  split
  · next same => exact same.symm
  · rfl

/-- A property is put into the place of the one with its name. -/
theorem Coherent.toList_overwrite (coherent : t.Coherent) (p : Property) :
    (t.overwrite p).entries.toList =
      t.entries.toList.map fun q => if q.name = p.name then p else q := by
  unfold RawTable.overwrite
  split
  · next i index =>
    rw [Array.toList_setIfInBounds]
    apply List.ext_getElem?
    intro j
    rw [List.getElem?_map, List.getElem?_set]
    cases stored : t.entries.toList[j]? with
    | none =>
      have outside := List.getElem?_eq_none_iff.1 stored
      split
      · rw [if_neg (by omega)]
        rfl
      · rfl
    | some q =>
      have inside := (List.getElem?_eq_some_iff.1 stored).1
      have here : t.index[p.name]? = some j ↔ q.name = p.name := coherent.index_eq_some_iff_name stored
      rw [index, Option.some_inj] at here
      by_cases same : i = j
      · rw [if_pos same, if_pos (by omega), Option.map_some, if_pos (here.1 same)]
      · rw [if_neg same, Option.map_some, if_neg (mt here.2 same)]
  · next absent =>
    have kept : ∀ q ∈ t.entries.toList, (if q.name = p.name then p else q) = q := by
      intro q member
      rw [if_neg (coherent.ne_of_index_eq_none absent member)]
    rw [List.map_congr_left kept, List.map_id']

/-- What has the name is taken out, and all else keeps its order. -/
theorem Coherent.toList_erase (coherent : t.Coherent) (name : String) :
    (t.erase name).entries.toList = t.entries.toList.filter fun p => p.name ≠ name := by
  unfold RawTable.erase
  split
  · next i index =>
    obtain ⟨p, stored, named⟩ := Option.map_eq_some_iff.1 ((coherent name i).1 index)
    obtain ⟨inside, at_i⟩ := Array.getElem?_eq_some_iff.1 stored
    have distinct : t.entries.toList.Nodup := coherent.nodup_names.of_map
    rw [← Array.length_toList] at inside
    rw [Array.toList_eraseIdxIfInBounds, ← distinct.erase_getElem i inside, distinct.erase_eq_filter,
      Array.getElem_toList, at_i]
    apply List.filter_congr
    intro q member
    rw [Bool.eq_iff_iff, bne_iff_ne, decide_eq_true_iff]
    apply not_congr
    constructor
    · intro same
      rw [same, named]
    · intro same
      apply List.inj_on_of_nodup_map coherent.nodup_names member _ (same.trans named.symm)
      exact Array.mem_toList_iff.2 (Array.mem_of_getElem? stored)
  · next absent =>
    symm
    rw [List.filter_eq_self]
    intro p member
    exact decide_eq_true (coherent.ne_of_index_eq_none absent member)

theorem Coherent.get?_push (coherent : t.Coherent) (p : Property)
    (name : String) : (t.push p).get? name = if name = p.name then some p else t.get? name := by
  by_cases same : name = p.name
  · subst same
    simp [get?, RawTable.push]
  · rw [if_neg same]
    have other : ¬ p.name = name := fun eq => same eq.symm
    simp only [get?, RawTable.push, Std.TreeMap.getElem?_insert, Std.LawfulEqCmp.compare_eq_iff_eq, other,
      if_false]
    cases at_name : t.index[name]? with
    | none => rfl
    | some i =>
      have stored := (coherent name i).1 at_name
      have below : i ≠ t.entries.size := by
        rintro rfl
        simp at stored
      simp [Array.getElem?_push, below]

/-- An entry is looked up by its name alone. -/
theorem Coherent.get?_eq_find? (coherent : t.Coherent) (name : String) :
    t.get? name = t.entries.toList.find? fun p => p.name == name := by
  cases found : t.entries.toList.find? fun p => p.name == name with
  | some p =>
    have member := Array.mem_toList_iff.1 (List.mem_of_find?_eq_some found)
    have named := List.find?_some found
    exact coherent.get?_eq_some_iff.2 ⟨member, eq_of_beq named⟩
  | none =>
    rw [Option.eq_none_iff_forall_ne_some]
    intro p present
    obtain ⟨member, named⟩ := coherent.get?_eq_some_iff.1 present
    have other := List.find?_eq_none.1 found p (Array.mem_toList_iff.2 member)
    exact other (beq_iff_eq.2 named)

theorem Coherent.get?_overwrite (coherent : t.Coherent) {p q : Property}
    (old : t.get? p.name = some q) (name : String) :
    (t.overwrite p).get? name = if name = p.name then some p else t.get? name := by
  rw [(coherent.overwrite p).get?_eq_find?, coherent.toList_overwrite, List.find?_map]
  simp only [Function.comp_def, name_replaced]
  rw [← coherent.get?_eq_find?]
  by_cases same : name = p.name
  · rw [if_pos same, same, old, Option.map_some, if_pos (coherent.get?_eq_some_iff.1 old).2]
  · rw [if_neg same]
    cases found : t.get? name with
    | none => rfl
    | some r =>
      rw [Option.map_some, (coherent.get?_eq_some_iff.1 found).2, if_neg same]

/-- Of a name that is taken out nothing is left, and the other names keep what they have. -/
theorem Coherent.get?_erase (coherent : t.Coherent) (name other : String) :
    (t.erase name).get? other = if other = name then none else t.get? other := by
  apply Option.ext
  intro p
  rw [(coherent.erase name).get?_eq_some_iff, ← Array.mem_toList_iff, coherent.toList_erase,
    List.mem_filter, Array.mem_toList_iff, decide_eq_true_iff]
  by_cases same : other = name
  · rw [if_pos same]
    constructor
    · intro found
      exact absurd (found.2.trans same) found.1.2
    · intro wrong
      cases wrong
  · rw [if_neg same, coherent.get?_eq_some_iff]
    constructor
    · intro found
      exact ⟨found.1.1, found.2⟩
    · intro found
      exact ⟨⟨found.1, fun wrong => same (found.2.symm.trans wrong)⟩, found.2⟩

/-- A property that is put into the place of another one of its name leaves all names in their places. -/
theorem Coherent.names_overwrite (coherent : t.Coherent) (p : Property) :
    (t.overwrite p).entries.toList.map Property.name = t.entries.toList.map Property.name := by
  rw [coherent.toList_overwrite, List.map_map]
  exact List.map_congr_left fun q _ => name_replaced p q

theorem index_overwrite (t : RawTable) (p : Property) : (t.overwrite p).index = t.index := by
  unfold RawTable.overwrite
  split <;> rfl
end RawTable

namespace PropertyTable

variable (t : PropertyTable) (name : String) (value : Value) (flags : Flags)

/-- The property that a definition leaves under its name. -/
def redefined (t : PropertyTable) (name : String) (value : Value) (flags : Flags) : Property :=
  match t.get? name with
  | some p => if p.flags.configurable then ⟨name, value, flags⟩ else p
  | none => ⟨name, value, flags⟩

theorem get?_define (other : String) :
    (t.define name value flags).2.get? other =
      if other = name then some (t.redefined name value flags) else t.get? other := by
  simp only [get?, redefined, define, RawTable.define]
  cases found : t.raw.get? name with
  | none => exact t.coherent.get?_push _ other
  | some p =>
    dsimp only
    split
    · exact t.coherent.get?_overwrite found other
    · split
      · next same => rw [same, found]
      · rfl

/-- The property that an assignment leaves under its name. -/
def assigned (t : PropertyTable) (name : String) (value : Value) : Property :=
  match t.get? name with
  | some p => if p.flags.writable then ⟨name, value, p.flags⟩ else p
  | none => ⟨name, value, .plain⟩

theorem get?_set (other : String) :
    (t.set name value).2.get? other =
      if other = name then some (t.assigned name value) else t.get? other := by
  simp only [get?, assigned, set, RawTable.set]
  cases found : t.raw.get? name with
  | none => exact t.coherent.get?_push _ other
  | some p =>
    dsimp only
    split
    · exact t.coherent.get?_overwrite found other
    · split
      · next same => rw [same, found]
      · rfl

/-- What a deletion leaves under its name. -/
def remaining (t : PropertyTable) (name : String) : Option Property :=
  match t.get? name with
  | some p => if p.flags.configurable then none else some p
  | none => none

theorem get?_delete (other : String) :
    (t.delete name).2.get? other = if other = name then t.remaining name else t.get? other := by
  simp only [get?, remaining, delete, RawTable.delete]
  cases found : t.raw.get? name with
  | none =>
    dsimp only
    split
    · next same => rw [same, found]
    · rfl
  | some p =>
    dsimp only
    split
    · exact t.coherent.get?_erase name other
    · split
      · next same => rw [same, found]
      · rfl

theorem mem_names_of_get? {t : PropertyTable} {name : String} {p : Property}
    (found : t.get? name = some p) : name ∈ t.names := by
  obtain ⟨member, named⟩ := get?_eq_some_iff.1 found
  exact List.mem_map.2 ⟨p, member, named⟩

/-- Names stay in their order, and a new one comes last. -/
theorem names_set :
    (t.set name value).2.names = if name ∈ t.names then t.names else t.names ++ [name] := by
  cases found : t.get? name with
  | none =>
    rw [if_neg (get?_eq_none_iff.1 found), names, toList_set_of_get?_none value found, List.map_append]
    rfl
  | some p =>
    rw [if_pos (mem_names_of_get? found)]
    change t.raw.get? name = some p at found
    simp only [names, toList, set, RawTable.set, found]
    split
    · exact t.coherent.names_overwrite _
    · rfl

theorem names_define :
    (t.define name value flags).2.names = if name ∈ t.names then t.names else t.names ++ [name] := by
  cases found : t.get? name with
  | none =>
    rw [if_neg (get?_eq_none_iff.1 found)]
    change t.raw.get? name = none at found
    simp [names, toList, define, RawTable.define, found, RawTable.push]
  | some p =>
    rw [if_pos (mem_names_of_get? found)]
    change t.raw.get? name = some p at found
    simp only [names, toList, define, RawTable.define, found]
    split
    · exact t.coherent.names_overwrite _
    · rfl

/-- A deletion takes one name out at most, and keeps the order of the others. -/
theorem names_delete :
    (t.delete name).2.names =
      if (t.delete name).1 then t.names.filter fun other => other ≠ name else t.names := by
  cases found : t.get? name with
  | none =>
    change t.raw.get? name = none at found
    simp [names, toList, delete, RawTable.delete, found]
  | some p =>
    change t.raw.get? name = some p at found
    by_cases configurable : p.flags.configurable = true
    · simp only [names, toList, delete, RawTable.delete, found, configurable, if_true]
      rw [t.coherent.toList_erase, List.filter_map]
      rfl
    · simp [names, toList, delete, RawTable.delete, found, configurable]

/-- What is hidden is not among the keys. -/
theorem not_mem_keys {t : PropertyTable} {name : String} {p : Property} (found : t.get? name = some p)
    (isHidden : p.flags.enumerable = false) : name ∉ t.keys := by
  intro listed
  obtain ⟨q, member, named⟩ := List.mem_map.1 listed
  obtain ⟨among, shown⟩ := List.mem_filter.1 member
  rw [get?_eq_some_iff.2 ⟨among, named⟩] at found
  obtain rfl := Option.some.inj found
  rw [isHidden] at shown
  cases shown

theorem ofEntries_concat (entries : List (String × Value)) (entry : String × Value) :
    ofEntries (entries ++ [entry]) = ((ofEntries entries).set entry.1 entry.2).2 := by
  rw [ofEntries, setAll, List.foldl_append]
  rfl

/-- Entries leave plain properties, each with the last value that was given under its name. -/
theorem get?_ofEntries (entries : List (String × Value)) :
    (ofEntries entries).get? name =
      (entries.reverse.lookup name).map fun value => ⟨name, value, .plain⟩ := by
  induction entries using List.reverseRecOn with
  | nil => exact get?_empty name
  | append_singleton entries entry ih =>
    rw [ofEntries_concat, get?_set, List.reverse_append, List.reverse_singleton, List.singleton_append,
      List.lookup_cons]
    by_cases same : name = entry.1
    · subst same
      rw [if_pos rfl, beq_self_eq_true, assigned, ih]
      cases entries.reverse.lookup entry.1 with
      | none => rfl
      | some old => rfl
    · rw [if_neg same, beq_eq_false_iff_ne.2 same, ih]

/-- The names of entries stand in the order in which each came first. -/
theorem names_ofEntries (entries : List (String × Value)) :
    (ofEntries entries).names = (entries.map Prod.fst).eraseDups := by
  induction entries using List.reverseRecOn with
  | nil => rfl
  | append_singleton entries entry ih =>
    rw [ofEntries_concat, names_set, ih, List.map_append, List.eraseDups_append, List.map_singleton]
    by_cases old : entry.1 ∈ entries.map Prod.fst
    · simp [old, List.removeAll]
    · simp [old, List.removeAll, List.eraseDups_cons]

/-- The properties are what is found under the names. -/
theorem toList_eq_filterMap (t : PropertyTable) : t.toList = t.names.filterMap t.get? := by
  have found : ∀ p ∈ t.toList, (t.get? ∘ Property.name) p = some p := fun p member =>
    get?_eq_some_iff.2 ⟨member, rfl⟩
  rw [names, List.filterMap_map, List.filterMap_congr found, List.filterMap_some]

/-- The index of a table in which nothing was deleted. -/
def positions (names : List String) : Std.TreeMap String Nat :=
  names.zipIdx.foldl (fun index entry => index.insert entry.1 entry.2) ∅

theorem positions_concat (names : List String) (name : String) :
    positions (names ++ [name]) = (positions names).insert name names.length := by
  rw [positions, List.zipIdx_append, List.foldl_append, Nat.zero_add]
  rfl

theorem index_set (t : PropertyTable) (name : String) (value : Value) :
    (t.set name value).2.raw.index =
      if name ∈ t.names then t.raw.index else t.raw.index.insert name t.size := by
  cases found : t.get? name with
  | none =>
    rw [if_neg (get?_eq_none_iff.1 found)]
    change t.raw.get? name = none at found
    simp only [set, RawTable.set, found]
    rfl
  | some p =>
    rw [if_pos (mem_names_of_get? found)]
    change t.raw.get? name = some p at found
    simp only [set, RawTable.set, found]
    split
    · exact t.raw.index_overwrite _
    · rfl

theorem index_ofEntries (entries : List (String × Value)) :
    (ofEntries entries).raw.index = positions (ofEntries entries).names := by
  induction entries using List.reverseRecOn with
  | nil => rfl
  | append_singleton entries entry ih =>
    -- an old name keeps its position, and a new one gets the next
    rw [ofEntries_concat, index_set, names_set, ih]
    split
    · rfl
    · rw [positions_concat, length_names]

/-- Entries that have the same names in the same order, each with the same last value, give the same
table. -/
theorem ofEntries_congr {entries others : List (String × Value)}
    (names : (entries.map Prod.fst).eraseDups = (others.map Prod.fst).eraseDups)
    (values : ∀ name, entries.reverse.lookup name = others.reverse.lookup name) :
    ofEntries entries = ofEntries others := by
  have named : (ofEntries entries).names = (ofEntries others).names := by
    rw [names_ofEntries, names_ofEntries, names]
  have found : (ofEntries entries).get? = (ofEntries others).get? := by
    funext name
    rw [get?_ofEntries, get?_ofEntries, values]
  have listed : (ofEntries entries).toList = (ofEntries others).toList := by
    rw [toList_eq_filterMap, toList_eq_filterMap, named, found]
  have indexed : (ofEntries entries).raw.index = (ofEntries others).raw.index := by
    rw [index_ofEntries, index_ofEntries, named]
  have stored := Array.toList_inj.1 listed
  generalize ofEntries entries = t at *
  generalize ofEntries others = t' at *
  obtain ⟨⟨_, _⟩, _⟩ := t
  obtain ⟨⟨_, _⟩, _⟩ := t'
  cases stored
  cases indexed
  rfl

end PropertyTable

end ProtoClass
