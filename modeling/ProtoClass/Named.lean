set_option autoImplicit false

namespace ProtoClass.Named

variable {α : Type}

/-- Puts a thing into the place of the one with the same name, or at the end. -/
def put (name : String) (x : α) : List (String × α) → List (String × α)
  | [] => [(name, x)]
  | (n, y) :: rest => if n = name then (n, x) :: rest else (n, y) :: put name x rest

theorem lookup_put (name other : String) (x : α) (l : List (String × α)) :
    (put name x l).lookup other = if other = name then some x else l.lookup other := by
  induction l with
  | nil =>
    by_cases h : other = name
    · simp [put, h]
    · have hb : (other == name) = false := by simpa using h
      simp [put, List.lookup_cons, h, hb]
  | cons entry rest ih =>
    obtain ⟨n, y⟩ := entry
    by_cases hn : n = name
    · subst hn
      by_cases h : other = n
      · simp [put, h]
      · have hb : (other == n) = false := by simpa using h
        simp [put, List.lookup_cons, h, hb]
    · by_cases h : other = n
      · subst h
        simp [put, hn]
      · have hb : (other == n) = false := by simpa using h
        simp [put, List.lookup_cons, hb, hn, ih]

theorem map_fst_put_of_mem {name : String} {l : List (String × α)} (x : α)
    (h : name ∈ l.map Prod.fst) : (put name x l).map Prod.fst = l.map Prod.fst := by
  induction l with
  | nil => simp at h
  | cons entry rest ih =>
    obtain ⟨n, y⟩ := entry
    by_cases hn : n = name
    · simp [put, hn]
    · have : name ∈ rest.map Prod.fst := by
        simpa [Ne.symm hn] using h
      simpa [put, hn] using ih this

theorem put_of_not_mem {name : String} {l : List (String × α)} (x : α)
    (h : name ∉ l.map Prod.fst) : put name x l = l ++ [(name, x)] := by
  induction l with
  | nil => rfl
  | cons entry rest ih =>
    obtain ⟨n, y⟩ := entry
    have hn : n ≠ name := fun e => h (by simp [e])
    have : name ∉ rest.map Prod.fst := fun e => h (by simp at e ⊢; exact Or.inr e)
    simp [put, hn, ih this]

theorem lookup_of_mem {name : String} {x : α} {l : List (String × α)}
    (distinct : (l.map Prod.fst).Nodup) (member : (name, x) ∈ l) : l.lookup name = some x := by
  induction l with
  | nil => cases member
  | cons entry rest ih =>
    obtain ⟨new, distinct⟩ := List.nodup_cons.1 distinct
    rcases List.mem_cons.1 member with rfl | later
    · rw [List.lookup_cons, beq_self_eq_true]
    · have other : name ≠ entry.1 := by
        rintro rfl
        exact new (List.mem_map.2 ⟨_, later, rfl⟩)
      rw [List.lookup_cons, beq_eq_false_iff_ne.2 other]
      exact ih distinct later

theorem mem_of_mem_put {name : String} {x : α} {l : List (String × α)} {entry : String × α}
    (member : entry ∈ put name x l) : entry ∈ l ∨ entry.2 = x := by
  induction l with
  | nil =>
    rw [put, List.mem_singleton] at member
    exact Or.inr (congrArg Prod.snd member)
  | cons first rest ih =>
    obtain ⟨n, y⟩ := first
    rw [put] at member
    split at member
    · rcases List.mem_cons.1 member with same | later
      · exact Or.inr (congrArg Prod.snd same)
      · exact Or.inl (List.mem_cons_of_mem _ later)
    · rcases List.mem_cons.1 member with same | later
      · exact Or.inl (same ▸ List.mem_cons_self)
      · exact (ih later).imp_left (List.mem_cons_of_mem _)

end ProtoClass.Named
