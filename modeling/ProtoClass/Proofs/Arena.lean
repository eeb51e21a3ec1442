import ProtoClass.Ref

set_option autoImplicit false

namespace ProtoClass.Arena

variable {k : Kind} {α : Type}

/-- Every cell has the property. -/
def All (a : Arena k α) (P : Ref k → α → Prop) : Prop :=
  ∀ r x, a.get? r = some x → P r x

theorem all_empty (P : Ref k → α → Prop) : All ({} : Arena k α) P := by
  intro r x stored
  simp [get?] at stored

theorem All.get [Inhabited α] {a : Arena k α} {P : Ref k → α → Prop} (all : a.All P) {r : Ref k}
    (live : a.isLive r = true) : P r (a.get r) :=
  all r _ (get?_of_isLive live)

theorem All.mono {a : Arena k α} {P Q : Ref k → α → Prop} (all : a.All P)
    (weaker : ∀ r x, P r x → Q r x) : a.All Q :=
  fun r x stored => weaker r x (all r x stored)

theorem All.add {a : Arena k α} {P : Ref k → α → Prop} {x : α} (all : a.All P)
    (new : P a.fresh x) : (a.add x).All P := by
  intro r y stored
  rw [get?_add] at stored
  split at stored
  · next same =>
    cases stored
    exact same ▸ new
  · exact all r y stored

theorem All.modify {a : Arena k α} {P : Ref k → α → Prop} {r : Ref k} {f : α → α} (all : a.All P)
    (changed : ∀ x, a.get? r = some x → P r x → P r (f x)) : (a.modify r f).All P := by
  intro s y stored
  rw [get?_modify] at stored
  split at stored
  · next same =>
    subst same
    obtain ⟨x, old, rfl⟩ := Option.map_eq_some_iff.1 stored
    exact changed x old (all s x old)
  · exact all s y stored

theorem get_modify_of_ne [Inhabited α] (a : Arena k α) {r s : Ref k} (other : s ≠ r) (f : α → α) :
    (a.modify r f).get s = a.get s := by
  unfold get
  rw [get?_modify, if_neg other]

/-- A new cell that agrees with the default one on a part shows nothing new of that part. -/
theorem get_add_same {β : Type} [Inhabited α] (a : Arena k α) (x : α) (r : Ref k) (part : α → β)
    (same : part x = part default) : part ((a.add x).get r) = part (a.get r) := by
  rw [get_add]
  split
  · next new => rw [same, new, get_of_not_isLive (by simp)]
  · rfl

/-- Every cell is still there, changed as the relation allows. -/
def Extends (R : α → α → Prop) (a b : Arena k α) : Prop :=
  ∀ r x, a.get? r = some x → ∃ y, b.get? r = some y ∧ R x y

variable {R : α → α → Prop} {a b c : Arena k α}

theorem Extends.refl (refl : ∀ x, R x x) (a : Arena k α) : a.Extends R a :=
  fun _ x stored => ⟨x, stored, refl x⟩

theorem Extends.trans (trans : ∀ x y z, R x y → R y z → R x z) (first : a.Extends R b)
    (second : b.Extends R c) : a.Extends R c := by
  intro r x stored
  obtain ⟨y, between, xy⟩ := first r x stored
  obtain ⟨z, last, yz⟩ := second r y between
  exact ⟨z, last, trans x y z xy yz⟩

theorem Extends.add (extended : a.Extends R b) (x : α) : a.Extends R (b.add x) := by
  intro r y stored
  obtain ⟨z, later, yz⟩ := extended r y stored
  refine ⟨z, ?_, yz⟩
  rw [get?_add, if_neg (fresh_ne_of_isLive (isLive_of_get? later)), later]

theorem extends_modify {r : Ref k} {f : α → α} (refl : ∀ x, R x x)
    (changed : ∀ x, a.get? r = some x → R x (f x)) : a.Extends R (a.modify r f) := by
  intro s x stored
  rw [get?_modify]
  split
  · next same =>
    subst same
    exact ⟨f x, by rw [stored]; rfl, changed x stored⟩
  · exact ⟨x, stored, refl x⟩

theorem Extends.isLive (extended : a.Extends R b) {r : Ref k} (live : a.isLive r = true) :
    b.isLive r = true := by
  rw [isLive_iff_get?, Option.isSome_iff_exists] at live
  obtain ⟨x, stored⟩ := live
  obtain ⟨y, later, _⟩ := extended r x stored
  exact isLive_of_get? later

theorem Extends.get [Inhabited α] (extended : a.Extends R b) {r : Ref k}
    (live : a.isLive r = true) : R (a.get r) (b.get r) := by
  obtain ⟨y, later, related⟩ := extended r _ (get?_of_isLive live)
  rw [get_of_get? later]
  exact related

theorem Extends.size_le (extended : a.Extends R b) : a.size ≤ b.size := by
  by_cases empty : a.size = 0
  · omega
  · have last : a.isLive ⟨a.size - 1⟩ = true := by
      rw [isLive_iff]
      exact Nat.sub_lt (Nat.pos_of_ne_zero empty) Nat.one_pos
    have still := extended.isLive last
    rw [isLive_iff] at still
    change a.size - 1 < b.size at still
    omega

end ProtoClass.Arena
