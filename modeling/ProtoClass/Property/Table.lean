import ProtoClass.Property.RawTable

set_option autoImplicit false

namespace ProtoClass

structure PropertyTable where
  raw : RawTable
  coherent : raw.Coherent

namespace PropertyTable

def empty : PropertyTable := ⟨{}, RawTable.coherent_empty⟩

instance : Inhabited PropertyTable := ⟨empty⟩

/-- All properties in the order of their definition. -/
def toList (t : PropertyTable) : List Property := t.raw.entries.toList

def size (t : PropertyTable) : Nat := t.raw.size

def isEmpty (t : PropertyTable) : Bool := t.size == 0

def get? (t : PropertyTable) (name : String) : Option Property := t.raw.get? name

def contains (t : PropertyTable) (name : String) : Bool := t.raw.contains name

/-- The names of all properties. -/
def names (t : PropertyTable) : List String := t.toList.map Property.name

/-- The names of the enumerable properties. -/
def keys (t : PropertyTable) : List String :=
  (t.toList.filter fun p => p.flags.enumerable).map Property.name

/-- Assigns a value; refused when the property exists and is not writable. -/
def set (t : PropertyTable) (name : String) (value : Value) : Bool × PropertyTable :=
  ((t.raw.set name value).1, ⟨(t.raw.set name value).2, t.coherent.set name value⟩)

/-- Defines a property with its flags; refused when one exists that is not configurable. -/
def define (t : PropertyTable) (name : String) (value : Value) (flags : Flags) :
    Bool × PropertyTable :=
  ((t.raw.define name value flags).1,
    ⟨(t.raw.define name value flags).2, t.coherent.define name value flags⟩)

/-- Deletes a property; refused when there is none or it is not configurable. -/
def delete (t : PropertyTable) (name : String) : Bool × PropertyTable :=
  ((t.raw.delete name).1, ⟨(t.raw.delete name).2, t.coherent.delete name⟩)

/-- Assigns entries one after another. -/
def setAll (t : PropertyTable) (entries : List (String × Value)) : PropertyTable :=
  entries.foldl (fun t entry => (t.set entry.1 entry.2).2) t

/-- The table that entries give when they are assigned one after another. -/
def ofEntries (entries : List (String × Value)) : PropertyTable := empty.setAll entries

theorem toList_empty : empty.toList = [] := rfl

theorem get?_empty (name : String) : empty.get? name = none := by
  simp [empty, get?, RawTable.get?]

theorem length_toList (t : PropertyTable) : t.toList.length = t.size := by
  simp [toList, size, RawTable.size]

theorem length_names (t : PropertyTable) : t.names.length = t.size := by
  simp [names, length_toList]

theorem get?_eq_some_iff {t : PropertyTable} {name : String} {p : Property} :
    t.get? name = some p ↔ p ∈ t.toList ∧ p.name = name := by
  rw [get?, t.coherent.get?_eq_some_iff, toList, Array.mem_toList_iff]

theorem get?_eq_none_iff {t : PropertyTable} {name : String} :
    t.get? name = none ↔ name ∉ t.names := by
  rw [Option.eq_none_iff_forall_ne_some, names, List.mem_map]
  constructor
  · rintro absent ⟨p, member, named⟩
    exact absent p (get?_eq_some_iff.2 ⟨member, named⟩)
  · intro absent p present
    exact absent ⟨p, get?_eq_some_iff.1 present⟩

theorem set_refused {t : PropertyTable} {name : String} {value : Value}
    (refused : (t.set name value).1 = false) : (t.set name value).2 = t := by
  simp only [set, RawTable.set_refused refused]

theorem define_refused {t : PropertyTable} {name : String} {value : Value} {flags : Flags}
    (refused : (t.define name value flags).1 = false) : (t.define name value flags).2 = t := by
  simp only [define, RawTable.define_refused refused]

theorem delete_refused {t : PropertyTable} {name : String} (refused : (t.delete name).1 = false) :
    (t.delete name).2 = t := by
  simp only [delete, RawTable.delete_refused refused]

/-- Assignment under a new name adds a plain property at the end. -/
theorem toList_set_of_get?_none {t : PropertyTable} {name : String} (value : Value)
    (new : t.get? name = none) :
    (t.set name value).2.toList = t.toList ++ [⟨name, value, .plain⟩] := by
  change t.raw.get? name = none at new
  simp [toList, set, RawTable.set, new, RawTable.push]

theorem value_of_mem_set {t : PropertyTable} {name : String} {value : Value} {p : Property}
    (member : p ∈ (t.set name value).2.toList) : p ∈ t.toList ∨ p.value = value := by
  simp only [toList, Array.mem_toList_iff] at member ⊢
  exact RawTable.value_of_mem_set member

theorem value_of_mem_define {t : PropertyTable} {name : String} {value : Value} {flags : Flags}
    {p : Property} (member : p ∈ (t.define name value flags).2.toList) :
    p ∈ t.toList ∨ p.value = value := by
  simp only [toList, Array.mem_toList_iff] at member ⊢
  exact RawTable.value_of_mem_define member

theorem mem_of_mem_delete {t : PropertyTable} {name : String} {p : Property}
    (member : p ∈ (t.delete name).2.toList) : p ∈ t.toList := by
  simp only [toList, Array.mem_toList_iff] at member ⊢
  exact RawTable.mem_of_mem_delete member

theorem value_of_mem_setAll {t : PropertyTable} {entries : List (String × Value)} {p : Property}
    (member : p ∈ (t.setAll entries).toList) :
    p ∈ t.toList ∨ ∃ entry ∈ entries, p.value = entry.2 := by
  induction entries generalizing t with
  | nil => exact Or.inl member
  | cons entry rest ih =>
    rcases ih member with old | ⟨later, among, eq⟩
    · rcases value_of_mem_set old with older | eq
      · exact Or.inl older
      · exact Or.inr ⟨entry, List.mem_cons_self, eq⟩
    · exact Or.inr ⟨later, List.mem_cons_of_mem _ among, eq⟩

/-- Entries of distinct new names are the new properties, in their order. -/
theorem toList_setAll_of_nodup {t : PropertyTable} {entries : List (String × Value)}
    (distinct : (entries.map Prod.fst).Nodup) (new : ∀ entry ∈ entries, entry.1 ∉ t.names) :
    (t.setAll entries).toList = t.toList ++ entries.map fun entry => ⟨entry.1, entry.2, .plain⟩ := by
  induction entries generalizing t with
  | nil => simp [setAll]
  | cons entry rest ih =>
    rw [List.map_cons, List.nodup_cons] at distinct
    have first := toList_set_of_get?_none entry.2 (get?_eq_none_iff.2 (new entry List.mem_cons_self))
    have others : ∀ later ∈ rest, later.1 ∉ (t.set entry.1 entry.2).2.names := by
      intro later member
      rw [names, first, List.map_append, List.mem_append, not_or]
      refine ⟨new later (List.mem_cons_of_mem _ member), ?_⟩
      intro same
      exact distinct.1 (List.mem_map.2 ⟨later, member, by simpa using same⟩)
    change ((t.set entry.1 entry.2).2.setAll rest).toList = _
    rw [ih distinct.2 others, first, List.append_assoc]
    rfl

theorem toList_ofEntries_of_nodup {entries : List (String × Value)}
    (distinct : (entries.map Prod.fst).Nodup) :
    (ofEntries entries).toList = entries.map fun entry => ⟨entry.1, entry.2, .plain⟩ := by
  have added := toList_setAll_of_nodup (t := empty) distinct (by simp [names, toList_empty])
  simpa [ofEntries, toList_empty] using added

/-- Each entry is there when their names are distinct. -/
theorem get?_ofEntries_of_mem {entries : List (String × Value)}
    (distinct : (entries.map Prod.fst).Nodup) {name : String} {value : Value}
    (member : (name, value) ∈ entries) : (ofEntries entries).get? name = some ⟨name, value, .plain⟩ := by
  rw [get?_eq_some_iff, toList_ofEntries_of_nodup distinct]
  exact ⟨List.mem_map.2 ⟨_, member, rfl⟩, rfl⟩

end PropertyTable

end ProtoClass
