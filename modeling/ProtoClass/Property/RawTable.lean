import ProtoClass.Property.Basic
import Std.Data.TreeMap

set_option autoImplicit false

/- The properties of an object in the order of their definition, with an index from each name to its
position. The two parts are changed side by side; `RawTable.Coherent` says that they agree, and every
operation keeps it. -/
namespace ProtoClass

structure RawTable where
  entries : Array Property := #[]
  index : Std.TreeMap String Nat := ∅

namespace RawTable

def size (t : RawTable) : Nat := t.entries.size

def get? (t : RawTable) (name : String) : Option Property :=
  t.index[name]?.bind fun i => t.entries[i]?

def contains (t : RawTable) (name : String) : Bool := t.index.contains name

/-- Adds a property of a new name at the end. -/
def push (t : RawTable) (p : Property) : RawTable :=
  ⟨t.entries.push p, t.index.insert p.name t.entries.size⟩

/-- Puts a property into the place of the one with its name. -/
def overwrite (t : RawTable) (p : Property) : RawTable :=
  match t.index[p.name]? with
  | some i => { t with entries := t.entries.setIfInBounds i p }
  | none => t

/-- Takes a property out; those behind it move up by one. -/
def erase (t : RawTable) (name : String) : RawTable :=
  match t.index[name]? with
  | some i =>
    ⟨t.entries.eraseIdxIfInBounds i,
      (t.index.erase name).map fun _ j => if i < j then j - 1 else j⟩
  | none => t

/-- Assigns a value; refused when the property exists and is not writable. -/
def set (t : RawTable) (name : String) (value : Value) : Bool × RawTable :=
  match t.get? name with
  | some p =>
    if p.flags.writable then (true, t.overwrite ⟨name, value, p.flags⟩) else (false, t)
  | none => (true, t.push ⟨name, value, .plain⟩)

/-- Defines a property with its flags; refused when one exists that is not configurable. -/
def define (t : RawTable) (name : String) (value : Value) (flags : Flags) : Bool × RawTable :=
  match t.get? name with
  | some p => if p.flags.configurable then (true, t.overwrite ⟨name, value, flags⟩) else (false, t)
  | none => (true, t.push ⟨name, value, flags⟩)

/-- Deletes a property; refused when there is none or it is not configurable. -/
def delete (t : RawTable) (name : String) : Bool × RawTable :=
  match t.get? name with
  | some p => if p.flags.configurable then (true, t.erase name) else (false, t)
  | none => (false, t)

/-- The index gives each name the position of its entry, and has no other names. -/
def Coherent (t : RawTable) : Prop :=
  ∀ (name : String) (i : Nat),
    t.index[name]? = some i ↔ (t.entries[i]?).map Property.name = some name

theorem coherent_empty : Coherent {} := by
  intro name i
  simp

theorem Coherent.push {t : RawTable} (h : t.Coherent) {p : Property}
    (new : t.index[p.name]? = none) : (t.push p).Coherent := by
  intro name i
  simp only [RawTable.push, Std.TreeMap.getElem?_insert, Array.getElem?_push,
    Std.LawfulEqCmp.compare_eq_iff_eq]
  have absent : ∀ j : Nat, (t.entries[j]?).map Property.name ≠ some p.name := fun j e => by
    simp [(h p.name j).2 e] at new
  by_cases hn : p.name = name
  · subst hn
    simp only [if_true]
    by_cases hi : i = t.entries.size
    · simp [hi]
    · have := absent i
      simp only [hi, if_false]
      constructor
      · intro e
        exact absurd (Option.some.inj e).symm hi
      · intro e
        exact absurd e this
  · simp only [hn, if_false, h name i]
    by_cases hi : i = t.entries.size
    · simp [hi, hn]
    · simp [hi]

theorem Coherent.overwrite {t : RawTable} (h : t.Coherent) (p : Property) :
    (t.overwrite p).Coherent := by
  unfold RawTable.overwrite
  split
  · next i hi =>
    intro name j
    have hp := (h p.name i).1 hi
    have hlt : i < t.entries.size := by
      by_cases hlt : i < t.entries.size
      · exact hlt
      · rw [Array.getElem?_eq_none (by omega)] at hp
        simp at hp
    rw [h name j]
    by_cases hj : i = j
    · subst hj
      rw [hp, Array.getElem?_setIfInBounds_self_of_lt hlt]
      simp
    · rw [Array.getElem?_setIfInBounds_ne hj]
  · exact h

theorem Coherent.erase {t : RawTable} (h : t.Coherent) (name : String) :
    (t.erase name).Coherent := by
  unfold RawTable.erase
  split
  · next i hi =>
    have hp := (h name i).1 hi
    have hlt : i < t.entries.size := by
      by_cases hlt : i < t.entries.size
      · exact hlt
      · rw [Array.getElem?_eq_none (by omega)] at hp
        simp at hp
    intro other j
    simp only [Std.TreeMap.getElem?_map, Std.TreeMap.getElem?_erase,
      Std.LawfulEqCmp.compare_eq_iff_eq, Array.eraseIdxIfInBounds, hlt, dif_pos,
      Array.getElem?_eraseIdx]
    by_cases hn : name = other
    · subst hn
      simp only [if_true, Option.map_none]
      constructor
      · intro e
        simp at e
      · intro e
        exfalso
        by_cases hj : j < i
        · rw [if_pos hj, ← h name j, hi] at e
          simp at e
          omega
        · rw [if_neg hj, ← h name (j + 1), hi] at e
          simp at e
          omega
    · simp only [hn, if_false, Option.map_eq_some_iff]
      have distinct : t.index[other]? ≠ some i := fun e => by
        have := (h other i).1 e
        rw [hp] at this
        exact hn (Option.some.inj this)
      constructor
      · rintro ⟨m, hm, rfl⟩
        have hmi : m ≠ i := fun e => distinct (e ▸ hm)
        have := (h other m).1 hm
        by_cases hlt' : i < m
        · rw [if_pos hlt', if_neg (by omega), show m - 1 + 1 = m by omega]
          simpa using this
        · rw [if_neg hlt', if_pos (by omega)]
          simpa using this
      · intro e
        by_cases hj : j < i
        · rw [if_pos hj] at e
          refine ⟨j, (h other j).2 (by simpa using e), ?_⟩
          rw [if_neg (by omega)]
        · rw [if_neg hj] at e
          refine ⟨j + 1, (h other (j + 1)).2 (by simpa using e), ?_⟩
          rw [if_pos (by omega), Nat.add_sub_cancel]
  · exact h

theorem Coherent.index_eq_none {t : RawTable} (h : t.Coherent) {name : String}
    (hn : t.get? name = none) : t.index[name]? = none := by
  cases hi : t.index[name]? with
  | none => rfl
  | some i =>
    have := (h name i).1 hi
    rw [get?, hi] at hn
    simp only [Option.bind_some] at hn
    simp [hn] at this

theorem Coherent.set {t : RawTable} (h : t.Coherent) (name : String) (value : Value) :
    (t.set name value).2.Coherent := by
  unfold RawTable.set
  split
  · split
    · exact h.overwrite _
    · exact h
  · next hn => exact h.push (h.index_eq_none hn)

theorem Coherent.define {t : RawTable} (h : t.Coherent) (name : String) (value : Value)
    (flags : Flags) : (t.define name value flags).2.Coherent := by
  unfold RawTable.define
  split
  · split
    · exact h.overwrite _
    · exact h
  · next hn => exact h.push (h.index_eq_none hn)

theorem Coherent.delete {t : RawTable} (h : t.Coherent) (name : String) :
    (t.delete name).2.Coherent := by
  unfold RawTable.delete
  split
  · split
    · exact h.erase _
    · exact h
  · exact h

theorem Coherent.get?_eq_some_iff {t : RawTable} (h : t.Coherent) {name : String} {p : Property} :
    t.get? name = some p ↔ p ∈ t.entries ∧ p.name = name := by
  simp only [get?, Option.bind_eq_some_iff, Array.mem_iff_getElem?]
  constructor
  · rintro ⟨i, index, stored⟩
    have named := (h name i).1 index
    rw [stored] at named
    exact ⟨⟨i, stored⟩, Option.some.inj named⟩
  · rintro ⟨⟨i, stored⟩, rfl⟩
    exact ⟨i, (h p.name i).2 (by rw [stored]; rfl), stored⟩

theorem set_refused {t : RawTable} {name : String} {value : Value}
    (refused : (t.set name value).1 = false) : (t.set name value).2 = t := by
  unfold set at refused ⊢
  split
  · split
    · simp_all
    · rfl
  · simp_all

theorem define_refused {t : RawTable} {name : String} {value : Value} {flags : Flags}
    (refused : (t.define name value flags).1 = false) : (t.define name value flags).2 = t := by
  unfold define at refused ⊢
  split
  · split
    · simp_all
    · rfl
  · simp_all

theorem delete_refused {t : RawTable} {name : String} (refused : (t.delete name).1 = false) :
    (t.delete name).2 = t := by
  unfold delete at refused ⊢
  split
  · split
    · simp_all
    · rfl
  · rfl

theorem mem_overwrite {t : RawTable} {p q : Property} (member : q ∈ (t.overwrite p).entries) :
    q ∈ t.entries ∨ q = p := by
  unfold overwrite at member
  split at member
  · exact Array.mem_or_eq_of_mem_setIfInBounds member
  · exact Or.inl member

theorem mem_erase {t : RawTable} {name : String} {q : Property}
    (member : q ∈ (t.erase name).entries) : q ∈ t.entries := by
  unfold erase at member
  split at member
  · simp only [Array.eraseIdxIfInBounds_eq] at member
    split at member
    · exact Array.mem_of_mem_eraseIdx member
    · exact member
  · exact member

theorem value_of_mem_set {t : RawTable} {name : String} {value : Value} {q : Property}
    (member : q ∈ (t.set name value).2.entries) : q ∈ t.entries ∨ q.value = value := by
  unfold set at member
  split at member
  · split at member
    · rcases mem_overwrite member with old | rfl
      · exact Or.inl old
      · exact Or.inr rfl
    · exact Or.inl member
  · rcases Array.mem_push.1 member with old | rfl
    · exact Or.inl old
    · exact Or.inr rfl

theorem value_of_mem_define {t : RawTable} {name : String} {value : Value} {flags : Flags}
    {q : Property} (member : q ∈ (t.define name value flags).2.entries) :
    q ∈ t.entries ∨ q.value = value := by
  unfold define at member
  split at member
  · split at member
    · rcases mem_overwrite member with old | rfl
      · exact Or.inl old
      · exact Or.inr rfl
    · exact Or.inl member
  · rcases Array.mem_push.1 member with old | rfl
    · exact Or.inl old
    · exact Or.inr rfl

theorem mem_of_mem_delete {t : RawTable} {name : String} {q : Property}
    (member : q ∈ (t.delete name).2.entries) : q ∈ t.entries := by
  unfold delete at member
  split at member
  · split at member
    · exact mem_erase member
    · exact member
  · exact member

end RawTable

end ProtoClass
