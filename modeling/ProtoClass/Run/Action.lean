import ProtoClass.Heap.Update
import ProtoClass.Program.Basic

set_option autoImplicit false

/- What may call functions acts on a world: the heap, the bodies of the functions that programs made,
and the state of the program. An action ends with a value or an error, or has no result at all: when
it never ends, or when it does what the watch over it rules out.

Actions are given relative to a `Setting`, which says how functions are called. What an action does
between two calls can so be studied apart from what the called functions do. -/
namespace ProtoClass

structure World (σ : Type) where
  heap : Heap := {}
  bodies : Array (Body σ) := #[]
  state : σ

def Action (σ α : Type) : Type := World σ → Option (Except Error α × World σ)

namespace Action

variable {σ α β : Type}

instance : Monad (Action σ) where
  pure a := fun w => some (.ok a, w)
  bind x f := fun w =>
    match x w with
    | none => none
    | some (.error e, w) => some (.error e, w)
    | some (.ok a, w) => f a w

/-- No result. -/
def stuck : Action σ α := fun _ => none

def fail (e : Error) : Action σ α := fun w => some (.error e, w)

def ofExcept (r : Except Error α) : Action σ α := fun w => some (r, w)

/-- The value, or no result when there is none. -/
def ofOption (x : Option α) : Action σ α := fun w => x.map fun a => (.ok a, w)

/-- Hands over the outcome of an action instead of failing with its error. -/
def attempt (x : Action σ α) : Action σ (Except Error α) := fun w =>
  (x w).map fun (r, w) => (.ok r, w)

def heap : Action σ Heap := fun w => some (.ok w.heap, w)

/-- An operation on the heap, as an action. -/
def update (u : Update α) : Action σ α := fun w =>
  some (.ok (u w.heap).1, { w with heap := (u w.heap).2 })

/-- An operation on the heap that may fail. -/
def tryUpdate (u : Update (Except Error α)) : Action σ α := fun w =>
  some ((u w.heap).1, { w with heap := (u w.heap).2 })

theorem heap_bind_apply (f : Heap → Action σ β) (w : World σ) : (heap >>= f) w = f w.heap w := rfl

theorem bind_of_ok {x : Action σ α} {f : α → Action σ β} {w w' : World σ} {a : α}
    (h : x w = some (.ok a, w')) : (x >>= f) w = f a w' := by
  show (match x w with
    | none => none
    | some (.error e, w) => some (.error e, w)
    | some (.ok a, w) => f a w) = f a w'
  rw [h]

theorem bind_of_error {x : Action σ α} {f : α → Action σ β} {w w' : World σ} {e : Error}
    (h : x w = some (.error e, w')) : (x >>= f) w = some (.error e, w') := by
  show (match x w with
    | none => none
    | some (.error e, w) => some (.error e, w)
    | some (.ok a, w) => f a w) = some (.error e, w')
  rw [h]

theorem bind_of_none {x : Action σ α} {f : α → Action σ β} {w : World σ} (h : x w = none) :
    (x >>= f) w = none := by
  show (match x w with
    | none => none
    | some (.error e, w) => some (.error e, w)
    | some (.ok a, w) => f a w) = none
  rw [h]

theorem attempt_of_ok {x : Action σ α} {w w' : World σ} {a : α} (h : x w = some (.ok a, w')) :
    x.attempt w = some (.ok (.ok a), w') := by
  rw [attempt, h]
  rfl

theorem attempt_of_error {x : Action σ α} {w w' : World σ} {e : Error}
    (h : x w = some (.error e, w')) : x.attempt w = some (.ok (.error e), w') := by
  rw [attempt, h]
  rfl

/-- Either the first part fails, or the second one goes on from where it ended. -/
theorem bind_inv {x : Action σ α} {f : α → Action σ β} {w w' : World σ} {r : Except Error β}
    (run : (x >>= f) w = some (r, w')) :
    (∃ e, x w = some (.error e, w') ∧ r = .error e) ∨
      ∃ a w₁, x w = some (.ok a, w₁) ∧ f a w₁ = some (r, w') := by
  cases start : x w with
  | none =>
    rw [bind_of_none start] at run
    cases run
  | some outcome =>
    obtain ⟨r₁, w₁⟩ := outcome
    cases r₁ with
    | error e =>
      rw [bind_of_error start] at run
      cases run
      exact Or.inl ⟨e, rfl, rfl⟩
    | ok a =>
      rw [bind_of_ok start] at run
      exact Or.inr ⟨a, w₁, rfl, run⟩

end Action

/-- A watch over a run: which objects may have their properties written in which heaps, what a
program may ask for in which heaps, and which heaps it may be shown. A run that goes against it has
no result, so what is said of every run under a watch is said of the runs that keep to it. -/
structure Watch where
  mayWrite : Heap → ObjectRef → Bool := fun _ _ => true
  mayAsk : Heap → Request → Bool := fun _ _ => true
  mayShow : Heap → Bool := fun _ => true

/-- What an action depends on: how functions are called, and the watch over it. -/
structure Setting (σ : Type) where
  call : FunctionRef → RuntimeRef → Value → List Value → Action σ Value
  watch : Watch := {}

namespace Setting

variable {σ α : Type}

/-- An operation that writes properties of an object when `wrote` says so of its result. -/
def write (s : Setting σ) (o : ObjectRef) (u : Update α) (wrote : α → Bool) : Action σ α := fun w =>
  if wrote (u w.heap).1 && !s.watch.mayWrite w.heap o then none
  else some (.ok (u w.heap).1, { w with heap := (u w.heap).2 })

def set (s : Setting σ) (o : ObjectRef) (name : String) (value : Value) : Action σ Bool :=
  s.write o (Update.set o name value) id

def define (s : Setting σ) (o : ObjectRef) (name : String) (value : Value) (flags : Flags) :
    Action σ Bool :=
  s.write o (Update.define o name value flags) id

def delete (s : Setting σ) (o : ObjectRef) (name : String) : Action σ Bool :=
  s.write o (Update.delete o name) id

def install (s : Setting σ) (o : ObjectRef) (properties : List (String × Value)) : Action σ Nat :=
  s.write o (Update.install o properties) (· != 0)

end Setting

end ProtoClass
