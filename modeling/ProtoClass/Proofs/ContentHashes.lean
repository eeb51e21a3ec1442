import Mathlib.Algebra.BigOperators.Ring.Finset
import Mathlib.Data.Int.ModEq
import Mathlib.Data.List.GetD
import Mathlib.Data.List.Induction
import Mathlib.Tactic.Ring
import ProtoClass.Proofs.HashCodes
import ProtoClass.Proofs.Widening

set_option autoImplicit false

/- The content hash of units is their polynomial at 31, in the signed representatives modulo 2³². Each
step of the hash wraps, and as often as it does the polynomial is the same modulo 2³²; so the hash of a
text in two parts follows from the hashes of the parts. A string that remembers its hash remembers this
value. -/
namespace ProtoClass

/-- The sum of `31 ^ (n - 1 - i) * uᵢ` over `n` units `u₀ u₁ …`. -/
def unitPolynomial (units : List UInt16) : Int :=
  ∑ i ∈ Finset.range units.length, 31 ^ (units.length - 1 - i) * ((units.getD i 0).toNat : Int)

theorem unitPolynomial_concat (units : List UInt16) (u : UInt16) :
    unitPolynomial (units ++ [u]) = unitPolynomial units * 31 + u.toNat := by
  have shifted : ∀ i ∈ Finset.range units.length,
      (31 : Int) ^ (units.length - i) * ((units ++ [u]).getD i 0).toNat =
        31 ^ (units.length - 1 - i) * (units.getD i 0).toNat * 31 := by
    intro i inside
    have below := Finset.mem_range.1 inside
    have power : units.length - i = units.length - 1 - i + 1 := by omega
    rw [List.getD_append _ _ _ _ below, power, pow_succ]
    ring
  rw [unitPolynomial, List.length_append, List.length_singleton, Finset.sum_range_succ,
    Nat.add_sub_cancel, Finset.sum_congr rfl shifted, ← Finset.sum_mul, ← unitPolynomial]
  simp

theorem unitPolynomial_append (units more : List UInt16) :
    unitPolynomial (units ++ more) =
      unitPolynomial units * 31 ^ more.length + unitPolynomial more := by
  induction more using List.reverseRecOn with
  | nil => simp [unitPolynomial]
  | append_singleton more u ih =>
    rw [← List.append_assoc, unitPolynomial_concat, unitPolynomial_concat, ih, List.length_append,
      List.length_singleton, pow_succ]
    ring

theorem hashStep_toInt (hash : Int32) (unit : UInt16) :
    (hashStep hash unit).toInt = (hash.toInt * 31 + unit.toNat).bmod (2 ^ 32) := by
  have small : (Int32.ofNat unit.toNat).toInt = unit.toNat := by
    have below := unit.toNat_lt
    exact Int32.toInt_ofNat_of_lt (by omega)
  rw [hashStep, Int32.toInt_add, Int32.toInt_mul, small, Int.bmod_add_bmod]
  rfl

/-- The hash is the signed representative of the polynomial, however often its steps wrapped. -/
theorem contentHash_toInt (units : List UInt16) :
    (contentHash units).toInt = (unitPolynomial units).bmod (2 ^ 32) := by
  induction units using List.reverseRecOn with
  | nil => rfl
  | append_singleton units u ih =>
    rw [contentHash_concat, hashStep_toInt, ih, unitPolynomial_concat, ← Int.bmod_add_bmod,
      Int.bmod_mul_bmod, Int.bmod_add_bmod]

theorem contentHash_modEq (units : List UInt16) :
    (contentHash units).toInt ≡ unitPolynomial units [ZMOD 2 ^ 32] := by
  rw [contentHash_toInt, Int.ModEq]
  exact Int.bmod_emod

theorem contentHash_append (units more : List UInt16) :
    (contentHash (units ++ more)).toInt ≡
      (contentHash units).toInt * 31 ^ more.length + (contentHash more).toInt [ZMOD 2 ^ 32] :=
  calc
    _ ≡ unitPolynomial (units ++ more) [ZMOD 2 ^ 32] := contentHash_modEq _
    _ = unitPolynomial units * 31 ^ more.length + unitPolynomial more := unitPolynomial_append units more
    _ ≡ (contentHash units).toInt * 31 ^ more.length + (contentHash more).toInt [ZMOD 2 ^ 32] :=
      ((contentHash_modEq units).symm.mul_right _).add (contentHash_modEq more).symm

/-- Every string answers with the hash of its content, and remembers no other number. -/
structure HashesContent {σ : Type} (w : World σ) : Prop where
  memo : ∀ s n, (w.heap.string s).hash = some n → n = contentHash (w.heap.string s).units
  asked : ∀ s, w.heap.strings.isLive s = true → ∀ t : Setting σ, t.watch = {} → ∃ w',
    t.perform (.hashOf s) w = some (.ok (contentHash (w.heap.string s).units), w') ∧
      (w'.heap.string s).units = (w.heap.string s).units ∧
      (w'.heap.string s).hash = some (contentHash (w.heap.string s).units)

section Asking

variable {σ : Type} {w : World σ} {s : StringRef}

theorem perform_hashOf (reached : w.heap.Reached {}) (live : w.heap.strings.isLive s = true)
    {t : Setting σ} (free : t.watch = {}) :
    t.perform (.hashOf s) w =
      some (.ok (contentHash (w.heap.string s).units),
        { w with heap := (Update.hashOf s w.heap).2 }) := by
  have served : t.perform (.hashOf s) w =
      some (.ok (Update.hashOf s w.heap).1, { w with heap := (Update.hashOf s w.heap).2 }) :=
    Setting.perform_apply live (by rw [free])
  rw [served, hashOf_answer reached.hashed]

theorem hashesContent_of_reached (reached : w.heap.Reached {}) : HashesContent w where
  memo := reached.hashed
  asked s live t free := by
    have allowed : Event.Allowed {} w.heap (.hash s) := live
    refine ⟨_, perform_hashOf reached live free, ?_, Update.hashOf_hash reached.hashed live⟩
    exact ((Event.extends allowed).string live).units

end Asking

/-- The content hash is the polynomial of the units at 31 modulo 2³², signed, and the hash of two parts
follows from those of the parts; at every moment of a run, and wherever else a program can be, asking a
string for its hash gives this value. -/
theorem content_hash_is_polynomial {σ : Type} (watch : Watch) (depth : Nat) (p : Program σ) (state : σ)
    (count : Nat) :
    (∀ units, (contentHash units).toInt = (unitPolynomial units).bmod (2 ^ 32)) ∧
      (∀ units more, (contentHash (units ++ more)).toInt ≡
        (contentHash units).toInt * 31 ^ more.length + (contentHash more).toInt [ZMOD 2 ^ 32]) ∧
      (∀ m ∈ p.moments watch depth state count, ∀ s before answer,
        m.answered = some ⟨.hashOf s, before, answer⟩ →
          answer = .ok (contentHash (before.string s).units)) ∧
      (∀ m ∈ p.moments watch depth state count, HashesContent m.toWorld) ∧
      ∀ (τ : Type) (w : World τ), Reached watch w → HashesContent w := by
  refine ⟨contentHash_toInt, contentHash_append, ?_,
    everywhere_of_reached (fun _ _ => hashesContent_of_reached) watch depth p state count⟩
  intro m member s before answer answered
  have known := (Program.sound_of_mem_moments member).known _ answered
  obtain ⟨τ, t, J, w, w', _, _, _, rfl, _, run⟩ := known.served
  -- a request for a hash asks no function, so its answer is that of the update
  cases (Setting.perform_inv run).2.2
  exact congrArg Except.ok (hashOf_answer known.reached.hashed s)

/-- Asks a string whose polynomial is beyond 2³² twice for its hash. -/
def rehearing : Program Unit := Script.toProgram do
  let s ← Script.ask (.newString (List.replicate 8 0xFFFF))
  let _ ← Script.ask (.hashOf s)
  let _ ← Script.ask (.hashOf s)
  return .string s

/-- When the string is asked again it remembers the hash, and would answer the same a third time. -/
theorem rehearing_hashes :
    2 ^ 32 < unitPolynomial (List.replicate 8 0xFFFF) ∧
      ∃ m ∈ rehearing.moments {} 2 () 20, ∃ before n,
        (before.string ⟨0⟩).hash = some n ∧ m.answered = some ⟨.hashOf ⟨0⟩, before, .ok n⟩ ∧
        n.toInt = (unitPolynomial (List.replicate 8 0xFFFF)).bmod (2 ^ 32) ∧
        ∃ w', (Setting.within {} 1).perform (.hashOf ⟨0⟩) m.toWorld = some (.ok n, w') := by
  have ends : (rehearing.moments {} 2 () 20).any (fun m =>
      m.heap.strings.isLive ⟨0⟩ && decide ((m.heap.string ⟨0⟩).units = List.replicate 8 0xFFFF) &&
      m.answered.any fun a => decide (a.request = .hashOf ⟨0⟩) &&
        decide ((a.before.string ⟨0⟩).units = List.replicate 8 0xFFFF) &&
        decide ((a.before.string ⟨0⟩).hash = some (contentHash (List.replicate 8 0xFFFF)))) = true := by
    decide +kernel
  obtain ⟨m, member, facts⟩ := List.any_eq_true.1 ends
  rw [Bool.and_eq_true, Option.any_eq_true] at facts
  obtain ⟨here, ⟨request, before, answer⟩, answered, facts⟩ := facts
  simp only [Bool.and_eq_true, decide_eq_true_iff] at here facts
  obtain ⟨⟨rfl, units⟩, remembered⟩ := facts
  obtain ⟨polynomial, _, answers, moments, _⟩ := content_hash_is_polynomial {} 2 rehearing () 20
  have same := answers m member ⟨0⟩ before answer answered
  obtain ⟨w', run, _⟩ := (moments m member).asked ⟨0⟩ here.1 (Setting.within {} 1) rfl
  rw [here.2] at run
  rw [same, units] at answered
  exact ⟨by decide +kernel, m, member, before, _, remembered, answered, polynomial _, w', run⟩

end ProtoClass
