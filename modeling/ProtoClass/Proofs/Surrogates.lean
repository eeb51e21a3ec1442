import Mathlib
import ProtoClass.Heap.Update

set_option autoImplicit false

/- A text survives being written in code units. The other way, units that no text is written in may have
halves of surrogate pairs that stand alone: each comes back from its text as U+FFFD, and every other
unit as it was, in the same place. Whether a half stands alone is seen from its neighbours, however
long the run of surrogates around it is. -/
namespace ProtoClass

namespace Utf16

/-- Is the unit at a position half of a surrogate pair without the other half beside it? -/
def isUnpaired (units : List UInt16) (i : Nat) : Bool :=
  units[i]?.any isHigh && !units[i + 1]?.any isLow ||
    units[i]?.any isLow && !(i != 0 && units[i - 1]?.any isHigh)

theorem isHigh_of_isLow {u : UInt16} (low : isLow u = true) : isHigh u = false := by
  simp only [isLow, isHigh, Bool.and_eq_true, Bool.and_eq_false_iff, decide_eq_true_iff,
    decide_eq_false_iff_not] at low ⊢
  omega

theorem encodeChar_of_toNat {c : Char} {u : UInt16} (number : c.toNat = u.toNat) :
    encodeChar c = [u] := by
  have below := u.toNat_lt
  rw [encodeChar, if_pos (by omega), number]
  simp

/-- A unit that is read on its own is given back, unless it is a surrogate. -/
theorem encodeChar_decodeUnit (u : UInt16) :
    encodeChar (decodeUnit u) = [if isHigh u || isLow u then 0xFFFD else u] := by
  unfold decodeUnit
  split
  · rfl
  · next single =>
    apply encodeChar_of_toNat
    have valid : u.toNat.isValidChar := by
      have below := u.toNat_lt
      simp only [isHigh, isLow, Bool.or_eq_true, Bool.and_eq_true, decide_eq_true_iff] at single
      unfold Nat.isValidChar
      omega
    rw [Char.toNat_ofNat, if_pos valid]

theorem encodeChar_decodePair {u v : UInt16} (high : isHigh u = true) (low : isLow v = true) :
    encodeChar (decodePair u v) = [u, v] := by
  simp only [isHigh, isLow, Bool.and_eq_true, decide_eq_true_iff] at high low
  have number : (decodePair u v).toNat =
      0x10000 + (u.toNat - 0xD800) * 0x400 + (v.toNat - 0xDC00) := by
    have valid : (0x10000 + (u.toNat - 0xD800) * 0x400 + (v.toNat - 0xDC00)).isValidChar := by
      unfold Nat.isValidChar
      omega
    rw [decodePair, Char.toNat_ofNat, if_pos valid]
  have first : 0xD800 + ((decodePair u v).toNat - 0x10000) / 0x400 = u.toNat := by omega
  have second : 0xDC00 + ((decodePair u v).toNat - 0x10000) % 0x400 = v.toNat := by omega
  rw [encodeChar, if_neg (by omega), first, second]
  simp

/-- A unit in front changes nothing but for the first unit, and nothing at all when the two are no
pair. -/
theorem isUnpaired_cons {u : UInt16} {units : List UInt16} {i : Nat}
    (apart : i ≠ 0 ∨ (isHigh u && units[0]?.any isLow) = false) :
    isUnpaired (u :: units) (i + 1) = isUnpaired units i := by
  cases i with
  | succ i => rfl
  | zero =>
    have apart := apart.resolve_left (by simp)
    simp only [isUnpaired, List.getElem?_cons_succ]
    cases low : units[0]?.any isLow with
    | false => simp
    | true =>
      rw [low, Bool.and_true] at apart
      simp [apart]

theorem isUnpaired_of_pair {u v : UInt16} (rest : List UInt16) (high : isHigh u = true)
    (low : isLow v = true) :
    isUnpaired (u :: v :: rest) 0 = false ∧ isUnpaired (u :: v :: rest) 1 = false ∧
      ∀ i, isUnpaired (u :: v :: rest) (i + 2) = isUnpaired rest i := by
  have apart := isHigh_of_isLow low
  have other : isLow u = false := by
    cases both : isLow u with
    | false => rfl
    | true => rw [isHigh_of_isLow both] at high; cases high
  refine ⟨by simp [isUnpaired, low, other], by simp [isUnpaired, high, apart], fun i => ?_⟩
  rw [isUnpaired_cons (Or.inl i.succ_ne_zero), isUnpaired_cons (Or.inr (by simp [apart]))]

theorem isUnpaired_zero {u : UInt16} {rest : List UInt16}
    (apart : (isHigh u && rest[0]?.any isLow) = false) :
    isUnpaired (u :: rest) 0 = (isHigh u || isLow u) := by
  simp only [isUnpaired, List.getElem?_cons_zero, List.getElem?_cons_succ, Option.any_some]
  cases high : isHigh u with
  | false => simp
  | true =>
    rw [high, Bool.true_and] at apart
    simp [apart]

/-- What comes back from the text of units, place by place. -/
theorem getElem?_encode_decode (units : List UInt16) (i : Nat) :
    (encode (decode units))[i]? =
      units[i]?.map fun u => if isUnpaired units i then 0xFFFD else u := by
  rw [decode, encode_ofList]
  fun_induction decodeChars units generalizing i with
  | case1 => rfl
  | case2 u =>
    rw [List.flatMap_singleton, encodeChar_decodeUnit]
    cases i with
    | zero => simp [isUnpaired_zero]
    | succ i => rfl
  | case3 u v rest pair ih =>
    obtain ⟨high, low⟩ := Bool.and_eq_true_iff.1 pair
    obtain ⟨first, second, others⟩ := isUnpaired_of_pair rest high low
    rw [List.flatMap_cons, encodeChar_decodePair high low]
    rcases i with _ | _ | i
    · simp [first]
    · simp [second]
    · simpa [others] using ih i
  | case4 u v rest single ih =>
    have apart : (isHigh u && (v :: rest)[0]?.any isLow) = false := by simpa using single
    rw [List.flatMap_cons, encodeChar_decodeUnit]
    cases i with
    | zero => simp [isUnpaired_zero apart]
    | succ i => simpa [isUnpaired_cons (Or.inr apart)] using ih i

/-- Of two first halves and two second ones in a row, the two in the middle are a pair. -/
example : encode (decode [0xD83D, 0xD83D, 0xDE00, 0xDE00]) = [0xFFFD, 0xD83D, 0xDE00, 0xFFFD] := by
  decide +kernel

end Utf16

open Utf16

/-- The second units are the first ones with U+FFFD in the place of every unpaired surrogate. -/
structure Mended (units mended : List UInt16) : Prop where
  length : mended.length = units.length
  unit : ∀ i, mended[i]? = units[i]?.map fun u => if isUnpaired units i then 0xFFFD else u
  differs : ∀ i, mended[i]? ≠ units[i]? ↔ isUnpaired units i = true
  /-- They are the same just when there is no such surrogate. -/
  same : mended = units ↔ ∀ i, isUnpaired units i = false

namespace Utf16

/-- Only a surrogate can be unpaired, so putting U+FFFD in its place changes it. -/
theorem ne_of_isUnpaired {units : List UInt16} {i : Nat} (unpaired : isUnpaired units i = true) :
    ∃ u, units[i]? = some u ∧ u ≠ 0xFFFD := by
  cases stored : units[i]? with
  | none => simp [isUnpaired, stored] at unpaired
  | some u =>
    refine ⟨u, rfl, ?_⟩
    rintro rfl
    have whole : isHigh 0xFFFD = false ∧ isLow 0xFFFD = false := by decide
    simp [isUnpaired, stored, whole] at unpaired

theorem mended_encode_decode (units : List UInt16) : Mended units (encode (decode units)) := by
  have unit := getElem?_encode_decode units
  have differs : ∀ i, (encode (decode units))[i]? ≠ units[i]? ↔ isUnpaired units i = true := by
    intro i
    rw [unit]
    cases unpaired : isUnpaired units i with
    | false => simp
    | true =>
      obtain ⟨u, stored, other⟩ := ne_of_isUnpaired unpaired
      simp [stored, other.symm]
  refine ⟨?_, unit, differs, ?_⟩
  · apply Nat.le_antisymm
    · rw [← List.getElem?_eq_none_iff, unit, List.getElem?_eq_none (Nat.le_refl _), Option.map_none]
    · have beyond := unit (encode (decode units)).length
      rw [List.getElem?_eq_none (Nat.le_refl _)] at beyond
      exact List.getElem?_eq_none_iff.1 (Option.map_eq_none_iff.1 beyond.symm)
  · constructor
    · intro same i
      rw [← Bool.not_eq_true, ← differs, same]
      exact fun other => other rfl
    · intro paired
      refine List.ext_getElem? fun i => Decidable.by_contra fun other => ?_
      have unpaired := (differs i).1 other
      rw [paired] at unpaired
      cases unpaired

theorem isWellFormed_iff {units : List UInt16} :
    isWellFormed units = true ↔ ∀ i, isUnpaired units i = false := by
  rw [isWellFormed, beq_iff_eq]
  exact (mended_encode_decode units).same

end Utf16

/-- A new string has the units that it is made of, and its text is that of these units. -/
theorem Update.newString_units (units : List UInt16) (h : Heap) :
    ((newString units h).2.string (newString units h).1).units = units := by
  simp [newString, Heap.string]

theorem Update.newText_units (s : String) (h : Heap) :
    ((newText s h).2.string (newText s h).1).units = encode s :=
  newString_units (encode s) h

/-- How strings are made of texts, and texts are read off strings. -/
structure TextSurvives (h : Heap) : Prop where
  text : ∀ s, let made := Update.newText s h
    made.2.display (.string made.1) = s
  /-- Strings of two texts are equal just when the texts are. -/
  equal : ∀ s t, let made := Update.newText s h
    let other := Update.newText t made.2
    other.2.looseEqual (.string made.1) (.string other.1) = true ↔ s = t
  /-- The text of any units makes a string of the same units, but for unpaired surrogates. -/
  units : ∀ units, let made := Update.newString units h
    let again := Update.newText (made.2.display (.string made.1)) made.2
    (made.2.string made.1).units = units ∧ Mended units (again.2.string again.1).units

/-- Whatever else there is, texts survive being made strings, and code units survive being made texts
but for the surrogates that are unpaired. -/
theorem text_survives_units (h : Heap) : TextSurvives h where
  text s := by
    intro made
    rw [Heap.display, Update.newText_units, decode_encode]
  equal s t := by
    intro made other
    have live : made.2.strings.isLive made.1 = true := by
      simp [made, Update.newText, Update.newString]
    have kept : other.2.string made.1 = made.2.string made.1 := Arena.get_add_of_isLive live _
    rw [Heap.looseEqual, kept, Update.newText_units, Update.newText_units, beq_iff_eq]
    exact ⟨fun same => by rw [← decode_encode s, same, decode_encode], congrArg encode⟩
  units units := by
    intro made again
    have shown : made.2.display (.string made.1) = decode units := by
      rw [Heap.display, Update.newString_units]
    refine ⟨Update.newString_units units h, ?_⟩
    rw [Update.newText_units, shown]
    exact mended_encode_decode units

end ProtoClass
