import ProtoClass.Proofs.Moment
import ProtoClass.Proofs.Readings

set_option autoImplicit false

namespace ProtoClass

/-- What loose equality compares of a value. -/
inductive Likeness where
  | absent
  | boolean (b : Bool)
  | number (reading : Binary64.Reading)
  | string (units : List UInt16)
  | object (o : ObjectRef)
  | function (f : FunctionRef)
  | klass (c : ClassRef)
  deriving DecidableEq

def Likeness.isTruthy : Likeness → Bool
  | absent => false
  | boolean b => b
  | number reading => reading != .nan && reading != .finite 0
  | string units => !units.isEmpty
  | _ => true

def Value.isNaN : Value → Bool
  | .number x => x.reading == .nan
  | _ => false

namespace Binary64

theorem equal_iff {x y : Binary64} :
    x.equal y = true ↔ x.reading = y.reading ∧ x.reading ≠ .nan := by
  unfold equal
  cases x.reading <;> cases y.reading <;> simp

theorem equalsInt_iff {x : Binary64} {i : Int} :
    x.equalsInt i = true ↔ x.reading = .finite (i * unit) :=
  beq_iff_eq

theorem toInt_mul_unit_inj {i j : Int32} : i.toInt * unit = j.toInt * unit ↔ i = j := by
  rw [← Int32.toInt_inj]
  exact ⟨Int.eq_of_mul_eq_mul_right (Int.ne_of_gt unit_pos), fun same => by rw [same]⟩

/-- A number that has the value of an integer of 32 bits has its text. -/
theorem display_of_integer {x : Binary64} {i : Int32} (reads : x.reading = .finite (i.toInt * unit)) :
    x.display = toString i.toInt := by
  have small : i.toInt.natAbs < tenPow 15 := by
    have lower := Int32.le_toInt i
    have upper := Int32.toInt_lt i
    have bound : tenPow 15 = 1000000000000000 := by decide
    omega
  rw [display, smallInteger?_of_reading reads small]

end Binary64

namespace Heap

/-- The absent values are alike, and integers are like numbers. -/
def likeness (h : Heap) : Value → Likeness
  | .undefined => .absent
  | .null => .absent
  | .boolean b => .boolean b
  | .integer i => .number (.finite (i.toInt * Binary64.unit))
  | .number x => .number x.reading
  | .string s => .string (h.string s).units
  | .object o => .object o
  | .function f => .function f
  | .klass c => .klass c

variable {h : Heap} {a b : Value}

/-- Values are loosely equal when they are alike, unless they are NaN. -/
theorem looseEqual_iff :
    h.looseEqual a b = true ↔ h.likeness a = h.likeness b ∧ a.isNaN = false := by
  cases a <;> cases b <;>
    simp only [looseEqual, likeness, Value.isNullish, Value.isNaN, Binary64.equal_iff,
      Binary64.equalsInt_iff, Binary64.toInt_mul_unit_inj, Likeness.boolean.injEq,
      Likeness.number.injEq, Likeness.string.injEq, Likeness.object.injEq, Likeness.function.injEq,
      Likeness.klass.injEq, Binary64.Reading.finite.injEq, beq_iff_eq, beq_eq_false_iff_ne,
      reduceCtorEq, and_true, false_and, Bool.false_eq_true, ne_eq]
  -- what is left is between integers and numbers
  case integer.number i x => exact eq_comm
  case number.integer x i =>
    refine (and_iff_left_of_imp fun reads => ?_).symm
    rw [reads]
    exact nofun

theorem isNaN_of_alike (alike : h.likeness a = h.likeness b) : b.isNaN = a.isNaN := by
  have read : ∀ v, v.isNaN = decide (h.likeness v = .number .nan) := by
    intro v
    cases v with
    | number x => simp [Value.isNaN, likeness, beq_eq_decide]
    | _ => simp [Value.isNaN, likeness]
  rw [read, read, alike]

theorem isTruthy_eq (v : Value) : h.isTruthy v = (h.likeness v).isTruthy := by
  cases v with
  | integer i =>
    have zero : i.toInt * Binary64.unit = 0 ↔ i = 0 := by
      have iff := Binary64.toInt_mul_unit_inj (i := i) (j := 0)
      rwa [Int32.toInt_zero, Int.zero_mul] at iff
    rw [Bool.eq_iff_iff]
    simp [isTruthy, likeness, Likeness.isTruthy, zero]
  | _ => rfl

/-- Values that are alike and not absent have the same text. -/
theorem display_of_alike (alike : h.likeness a = h.likeness b) (present : a.isNullish = false) :
    h.display a = h.display b := by
  cases a with
  | undefined | null => cases present
  | boolean x =>
    cases b with
    | boolean y => rw [Likeness.boolean.inj alike]
    | _ => cases alike
  | integer i =>
    cases b with
    | integer j =>
      have same := Binary64.Reading.finite.inj (Likeness.number.inj alike)
      rw [Binary64.toInt_mul_unit_inj.1 same]
    | number y => exact (Binary64.display_of_integer (Likeness.number.inj alike).symm).symm
    | _ => cases alike
  | number x =>
    cases b with
    | integer j => exact Binary64.display_of_integer (Likeness.number.inj alike)
    | number y => exact Binary64.display_congr (Likeness.number.inj alike)
    | _ => cases alike
  | string s =>
    cases b with
    | string t =>
      have same : (h.string s).units = (h.string t).units := Likeness.string.inj alike
      rw [display, display, same]
    | _ => cases alike
  | object o =>
    cases b with
    | object p => rfl
    | _ => cases alike
  | function f =>
    cases b with
    | function g => rw [Likeness.function.inj alike]
    | _ => cases alike
  | klass c =>
    cases b with
    | klass d => rw [Likeness.klass.inj alike]
    | _ => cases alike

end Heap

/-- How loose equality behaves, and what it leaves no difference in. -/
structure LooseEquality (h : Heap) : Prop where
  symm : ∀ a b, h.looseEqual a b = h.looseEqual b a
  trans : ∀ a b c, h.looseEqual a b = true → h.looseEqual b c = true → h.looseEqual a c = true
  /-- NaN alone is not equal to itself. -/
  refl : ∀ a, h.looseEqual a a = !a.isNaN
  truth : ∀ a b, h.looseEqual a b = true → h.isTruthy a = h.isTruthy b
  text : ∀ a b, h.looseEqual a b = true → a.isNullish = false → h.display a = h.display b

theorem looseEquality (h : Heap) : LooseEquality h where
  symm a b := by
    rw [Bool.eq_iff_iff, Heap.looseEqual_iff, Heap.looseEqual_iff]
    constructor <;>
    · rintro ⟨alike, number⟩
      exact ⟨alike.symm, (Heap.isNaN_of_alike alike).trans number⟩
  trans a b c first second := by
    rw [Heap.looseEqual_iff] at first second ⊢
    exact ⟨first.1.trans second.1, first.2⟩
  refl a := by
    rw [Bool.eq_iff_iff, Heap.looseEqual_iff, Bool.not_eq_true']
    exact and_iff_right rfl
  truth a b equal := by
    rw [Heap.isTruthy_eq, Heap.isTruthy_eq, (Heap.looseEqual_iff.1 equal).1]
  text a b equal present := Heap.display_of_alike (Heap.looseEqual_iff.1 equal).1 present

/-- Two selectors choose the same variant of every class, so that constructing with one or the other
comes to the same. -/
structure SelectAlike {σ : Type} (w : World σ) (a b : Value) : Prop where
  variant : ∀ rt, w.heap.variant rt a = w.heap.variant rt b
  construct : ∀ (s : Setting σ) rt c leading,
    s.construct rt c (leading ++ [a]) w = s.construct rt c (leading ++ [b]) w
  constructNamed : ∀ (s : Setting σ) rt name leading,
    s.constructNamed rt name (leading ++ [a]) w = s.constructNamed rt name (leading ++ [b]) w

theorem selectAlike_of_display {σ : Type} {w : World σ} {a b : Value}
    (same : w.heap.display a = w.heap.display b) : SelectAlike w a b := by
  have variant : ∀ rt, w.heap.variant rt a = w.heap.variant rt b := by
    intro rt
    rw [Heap.variant, Heap.variant, same]
  have construct : ∀ (s : Setting σ) rt c leading,
      s.construct rt c (leading ++ [a]) w = s.construct rt c (leading ++ [b]) w := by
    intro s rt c leading
    unfold Setting.construct
    simp only [Action.heap_bind_apply, List.getLast?_concat, List.dropLast_concat, variant]
  refine ⟨variant, construct, fun s rt name leading => ?_⟩
  unfold Setting.constructNamed
  rw [Action.heap_bind_apply, Action.heap_bind_apply]
  cases w.heap.classNamed rt name with
  | none => rfl
  | some c => exact construct s rt c leading

/-- In every heap loose equality is an equivalence but for NaN, and what it identifies is equally true,
has the same text unless it is absent, and then selects the same constructor variants. -/
theorem loose_equality_selects :
    (∀ h : Heap, LooseEquality h) ∧
      ∀ (σ : Type) (w : World σ) a b, w.heap.looseEqual a b = true → a.isNullish = false →
        SelectAlike w a b :=
  ⟨looseEquality, fun _ w a b equal present =>
    selectAlike_of_display ((looseEquality w.heap).text a b equal present)⟩

/-- The number three is the integer three, and prints like it. -/
example : ({} : Heap).looseEqual (.integer 3) (.number ⟨0x4008000000000000⟩) = true ∧
    ({} : Heap).display (.number ⟨0x4008000000000000⟩) = "3" := by
  decide +kernel

/-- Defines a class with the constructor variant of zero. -/
def zeroing : Program Unit := Script.toProgram do
  let rt ← Script.ask (.newRuntime {})
  let f ← Script.newFunction "f" fun _ _ _ => Script.toProgram do return .null
  return .klass (← Script.ask (.defineFlat rt "A" "" [("$0", .function f)] none))

/-- The negative zero selects the variant that the integer zero does, and the construction succeeds. -/
theorem zeroing_selects :
    ∃ m ∈ zeroing.moments {} 2 () 20, ∃ o w',
      m.heap.looseEqual (.number ⟨0x8000000000000000⟩) (.integer 0) = true ∧
      m.heap.variant ⟨0⟩ (.integer 0) = "$0" ∧
      SelectAlike m.toWorld (.number ⟨0x8000000000000000⟩) (.integer 0) ∧
      (Setting.within {} 2).construct ⟨0⟩ ⟨2⟩ [.null, .number ⟨0x8000000000000000⟩] m.toWorld =
        some (.ok o, w') := by
  have ends : (zeroing.moments {} 2 () 20).any (fun m =>
      m.heap.looseEqual (.number ⟨0x8000000000000000⟩) (.integer 0) &&
      decide (m.heap.variant ⟨0⟩ (.integer 0) = "$0") &&
      ((Setting.within {} 2).construct ⟨0⟩ ⟨2⟩ [.null, .integer 0] m.toWorld).any
        fun ended => ended.1.toOption.isSome) = true := by
    decide +kernel
  obtain ⟨m, member, facts⟩ := List.any_eq_true.1 ends
  simp only [Bool.and_eq_true, decide_eq_true_iff] at facts
  obtain ⟨⟨equal, variant⟩, built⟩ := facts
  have alike := loose_equality_selects.2 Unit m.toWorld _ _ equal rfl
  obtain ⟨⟨outcome, w'⟩, run, succeeds⟩ := (Option.any_eq_true _ _).1 built
  cases outcome with
  | error e => cases succeeds
  | ok o =>
    exact ⟨m, member, o, w', equal, variant, alike, (alike.construct _ _ _ [.null]).trans run⟩

end ProtoClass
