set_option autoImplicit false

/- Everything with an identity of its own lives in an arena, and a reference is its position there.
Arenas only grow, so a reference stays good for ever and a new one differs from all older ones. -/
namespace ProtoClass

/-- The kinds of things that have references. -/
inductive Kind where
  | object
  | function
  | string
  | klass
  | descriptor
  | runtime
  | counter
  | registry
  deriving DecidableEq

structure Ref (k : Kind) where
  id : Nat
  deriving DecidableEq

abbrev ObjectRef := Ref .object
abbrev FunctionRef := Ref .function
abbrev StringRef := Ref .string
abbrev ClassRef := Ref .klass
abbrev DescriptorRef := Ref .descriptor
abbrev RuntimeRef := Ref .runtime
abbrev CounterRef := Ref .counter
abbrev RegistryRef := Ref .registry

theorem Ref.ext_id {k : Kind} {r s : Ref k} (h : r.id = s.id) : r = s := by
  cases r; cases s; simp_all

/-- The cells of all things of one kind, in the order in which they were made. -/
structure Arena (k : Kind) (α : Type) where
  cells : Array α := #[]

namespace Arena

variable {k : Kind} {α : Type}

def size (a : Arena k α) : Nat := a.cells.size

/-- Does the reference name a thing of this arena? -/
def isLive (a : Arena k α) (r : Ref k) : Bool := r.id < a.size

def get? (a : Arena k α) (r : Ref k) : Option α := a.cells[r.id]?

/-- The cell of a live reference; the default one when the reference is not live. -/
def get [Inhabited α] (a : Arena k α) (r : Ref k) : α := (a.get? r).getD default

/-- The reference that the next new thing gets. -/
def fresh (a : Arena k α) : Ref k := ⟨a.size⟩

def add (a : Arena k α) (x : α) : Arena k α := ⟨a.cells.push x⟩

/-- Changes the cell of a live reference. -/
def modify (a : Arena k α) (r : Ref k) (f : α → α) : Arena k α := ⟨a.cells.modify r.id f⟩

@[simp] theorem size_add (a : Arena k α) (x : α) : (a.add x).size = a.size + 1 := by
  simp [size, add]

@[simp] theorem size_modify (a : Arena k α) (r : Ref k) (f : α → α) :
    (a.modify r f).size = a.size := by
  simp [size, modify]

theorem get?_add (a : Arena k α) (x : α) (r : Ref k) :
    (a.add x).get? r = if r = a.fresh then some x else a.get? r := by
  have : r = a.fresh ↔ r.id = a.cells.size :=
    ⟨fun h => by simp [h, fresh, size], fun h => Ref.ext_id h⟩
  simp only [get?, add, Array.getElem?_push, this]

@[simp] theorem get?_add_fresh (a : Arena k α) (x : α) : (a.add x).get? a.fresh = some x := by
  simp [get?_add]

theorem get?_modify (a : Arena k α) (r s : Ref k) (f : α → α) :
    (a.modify r f).get? s = if s = r then (a.get? s).map f else a.get? s := by
  by_cases h : s = r
  · subst h
    simp [get?, modify, Array.getElem?_modify]
  · have : r.id ≠ s.id := fun e => h (Ref.ext_id e.symm)
    simp [get?, modify, Array.getElem?_modify, h, this]

theorem isLive_iff (a : Arena k α) (r : Ref k) : a.isLive r = true ↔ r.id < a.size := by
  rw [isLive, decide_eq_true_iff]

theorem isLive_iff_get? (a : Arena k α) (r : Ref k) : a.isLive r = true ↔ (a.get? r).isSome := by
  rw [isLive_iff]
  simp [size, get?]

theorem isLive_of_get? {a : Arena k α} {r : Ref k} {x : α} (stored : a.get? r = some x) :
    a.isLive r = true := by
  rw [isLive_iff_get?, stored]
  rfl

theorem get?_of_isLive [Inhabited α] {a : Arena k α} {r : Ref k} (live : a.isLive r = true) :
    a.get? r = some (a.get r) := by
  rw [isLive_iff_get?, Option.isSome_iff_exists] at live
  obtain ⟨x, stored⟩ := live
  simp [get, stored]

theorem get_of_get? [Inhabited α] {a : Arena k α} {r : Ref k} {x : α} (stored : a.get? r = some x) :
    a.get r = x := by
  simp [get, stored]

theorem get_of_not_isLive [Inhabited α] {a : Arena k α} {r : Ref k} (dead : ¬ a.isLive r = true) :
    a.get r = default := by
  rw [isLive_iff_get?, Option.not_isSome_iff_eq_none] at dead
  simp [get, dead]

theorem fresh_add (a : Arena k α) (x : α) : (a.add x).fresh = ⟨a.size + 1⟩ := by
  simp [fresh]

@[simp] theorem isLive_fresh (a : Arena k α) : a.isLive a.fresh = false := by
  simp [isLive, fresh]

@[simp] theorem isLive_add (a : Arena k α) (x : α) (r : Ref k) :
    (a.add x).isLive r = (a.isLive r || decide (r = a.fresh)) := by
  rw [Bool.eq_iff_iff, Bool.or_eq_true, isLive_iff, isLive_iff, decide_eq_true_iff, size_add]
  constructor
  · intro below
    by_cases old : r.id < a.size
    · exact Or.inl old
    · exact Or.inr (Ref.ext_id (show r.id = a.size by omega))
  · rintro (old | rfl)
    · omega
    · exact Nat.lt_succ_self a.size

@[simp] theorem isLive_modify (a : Arena k α) (r s : Ref k) (f : α → α) :
    (a.modify r f).isLive s = a.isLive s := by
  simp [isLive]

theorem fresh_ne_of_isLive {a : Arena k α} {r : Ref k} (live : a.isLive r = true) :
    r ≠ a.fresh := by
  rintro rfl
  simp at live

theorem get_add [Inhabited α] (a : Arena k α) (x : α) (r : Ref k) :
    (a.add x).get r = if r = a.fresh then x else a.get r := by
  unfold get
  rw [get?_add]
  split <;> rfl

@[simp] theorem get_add_fresh [Inhabited α] (a : Arena k α) (x : α) : (a.add x).get a.fresh = x := by
  simp [get_add]

theorem get_add_of_isLive [Inhabited α] {a : Arena k α} {r : Ref k} (live : a.isLive r = true)
    (x : α) : (a.add x).get r = a.get r := by
  rw [get_add, if_neg (fresh_ne_of_isLive live)]

theorem isLive_add_of_isLive {a : Arena k α} {r : Ref k} (live : a.isLive r = true) (x : α) :
    (a.add x).isLive r = true := by
  rw [isLive_add, live, Bool.true_or]

theorem get_modify [Inhabited α] {a : Arena k α} {r : Ref k} (live : a.isLive r = true) (s : Ref k)
    (f : α → α) : (a.modify r f).get s = if s = r then f (a.get r) else a.get s := by
  unfold get
  rw [get?_modify]
  split
  · next same =>
    subst same
    rw [get?_of_isLive live]
    rfl
  · rfl

/-- A change that leaves a part of every cell alone leaves that part alone everywhere. -/
theorem get_modify_same {β : Type} [Inhabited α] (a : Arena k α) (r s : Ref k) (f : α → α)
    (part : α → β) (same : ∀ x, part (f x) = part x) :
    part ((a.modify r f).get s) = part (a.get s) := by
  by_cases live : a.isLive r = true
  · rw [get_modify live]
    split
    · next eq => rw [same, eq]
    · rfl
  · unfold get
    rw [get?_modify]
    split
    · next eq =>
      rw [isLive_iff_get?, Option.not_isSome_iff_eq_none] at live
      rw [eq, live]
      rfl
    · rfl

theorem modify_add_fresh (a : Arena k α) (x : α) (f : α → α) :
    (a.add x).modify a.fresh f = a.add (f x) := by
  have cells : (a.cells.push x).modify a.cells.size f = a.cells.push (f x) := by
    apply Array.ext
    · simp
    · intro i inside _
      by_cases last : i = a.cells.size
      · simp [Array.getElem_modify, last]
      · have below : i < a.cells.size := by
          rw [Array.size_modify, Array.size_push] at inside
          omega
        simp [Array.getElem_modify, Array.getElem_push, Ne.symm last, below]
  exact congrArg Arena.mk cells

theorem modify_add_of_isLive {a : Arena k α} {r : Ref k} (live : a.isLive r = true) (x : α)
    (f : α → α) : (a.add x).modify r f = (a.modify r f).add x := by
  rw [isLive_iff] at live
  have cells : (a.cells.push x).modify r.id f = (a.cells.modify r.id f).push x := by
    apply Array.ext
    · simp
    · intro i _ _
      simp only [Array.getElem_modify, Array.getElem_push, Array.size_modify]
      unfold size at live
      split <;> split <;> first | rfl | omega
  exact congrArg Arena.mk cells

theorem modify_congr {a : Arena k α} {r : Ref k} {f g : α → α}
    (same : ∀ x, a.get? r = some x → f x = g x) : a.modify r f = a.modify r g := by
  have cells : a.cells.modify r.id f = a.cells.modify r.id g := by
    apply Array.ext
    · simp
    · intro i inside _
      have below : i < a.cells.size := by simpa using inside
      simp only [Array.getElem_modify]
      split
      · next at_r => exact same _ (by subst at_r; exact Array.getElem?_eq_getElem below)
      · rfl
  exact congrArg Arena.mk cells

theorem modify_modify (a : Arena k α) (r : Ref k) (f g : α → α) :
    (a.modify r f).modify r g = a.modify r (g ∘ f) := by
  have cells : (a.cells.modify r.id f).modify r.id g = a.cells.modify r.id (g ∘ f) := by
    apply Array.ext
    · simp
    · intro i _ _
      simp only [Array.getElem_modify]
      split <;> rfl
  exact congrArg Arena.mk cells

theorem modify_id (a : Arena k α) (r : Ref k) : a.modify r (fun x => x) = a := by
  have cells : a.cells.modify r.id (fun x => x) = a.cells := by
    apply Array.ext
    · simp
    · intro i _ _
      simp [Array.getElem_modify]
  exact congrArg Arena.mk cells

end Arena

end ProtoClass
