import ProtoClass.Proofs.Reached

set_option autoImplicit false

/- A counter hands out its numbers in order, each to one slot, and a slot keeps what it was given. So a
heap can be read as a ledger: for each counter the list of slots that got their identity from it, in
the order of their first requests. A request adds at most one slot at the end of one list, and no
other event changes the ledger. -/
namespace ProtoClass

theorem toInt_add_one_of_ne_maxValue {n : Int32} (more : n ≠ Int32.maxValue) :
    (n + 1).toInt = n.toInt + 1 := by
  have below : n.toInt ≠ 2 ^ 31 - 1 := by
    rw [← Int32.toInt_maxValue]
    exact fun same => more (Int32.toInt_inj.1 same)
  have lower := Int32.le_toInt n
  have upper := Int32.toInt_lt n
  rw [Int32.toInt_add, Int32.toInt_one, Int.bmod_eq_of_le] <;> omega

/-- The later heap has the same identities, and its counters have issued as many. -/
structure SameLedger (h h' : Heap) : Prop where
  kept : ∀ x, h'.kept x = h.kept x
  issued : ∀ k, h'.issued k = h.issued k

namespace SameLedger

variable {h h' h'' : Heap}

theorem refl (h : Heap) : SameLedger h h := ⟨fun _ => rfl, fun _ => rfl⟩

theorem trans (first : SameLedger h h') (second : SameLedger h' h'') : SameLedger h h'' :=
  ⟨fun x => (second.kept x).trans (first.kept x),
    fun k => (second.issued k).trans (first.issued k)⟩

theorem of_parts (objects : ∀ o, (h'.object o).identity = (h.object o).identity)
    (functions : ∀ f, (h'.function f).identity = (h.function f).identity)
    (issued : ∀ k, h'.issued k = h.issued k) : SameLedger h h' := by
  refine ⟨fun x => ?_, issued⟩
  cases x with
  | object o => exact objects o
  | function f => exact functions f

end SameLedger

/-- An event that is no request for an identity keeps the ledger. -/
theorem Event.sameLedger {e : Event} (other : ¬ e.IsIdentity) (h : Heap) :
    SameLedger h (e.apply h) := by
  have outside := Event.frame e h
  have new : ∀ (a : Arena .object ObjectCell) (cell : ObjectCell) (o : ObjectRef),
      cell.identity = none → ((a.add cell).get o).identity = (a.get o).identity :=
    fun a cell o => a.get_add_same cell o ObjectCell.identity
  refine .of_parts (fun o => ?_) (fun f => ?_) fun k => ?_
  · have writes := fun p (written : e.written = some p) => apply_of_written written h
    cases e with
    | identity k x => exact absurd trivial other
    | set p | define p | delete p | install p | furnish p =>
      obtain ⟨f, changed⟩ := writes p rfl
      rw [changed, h.object_mapProperties p f o ObjectCell.identity fun _ _ => rfl]
    | object prototype entries =>
      rw [apply, Update.newObjectOf_apply]
      exact new _ _ o rfl
    | host rt name create =>
      rw [apply, Update.registerHost_apply]
      split
      · rfl
      · exact (new _ _ o rfl).trans (new _ _ o rfl)
    | klass rt d s =>
      rw [apply, Update.buildClass_apply]
      exact ((new _ _ o rfl).trans (new _ _ o rfl)).trans (new _ _ o rfl)
    | openRuntime options =>
      rw [apply, Update.openRuntime_apply]
      exact ((new _ _ o rfl).trans (new _ _ o rfl)).trans (new _ _ o rfl)
    | _ => rw [Heap.object, outside.objects (by simp [footprint]), Heap.object]
  · cases e with
    | identity k x => exact absurd trivial other
    | function name code => exact h.functions.get_add_same _ f FunctionCell.identity rfl
    | klass rt d s =>
      rw [apply, Update.buildClass_apply]
      exact h.functions.get_add_same _ f FunctionCell.identity rfl
    | _ => rw [Heap.function, outside.functions (by simp [footprint]), Heap.function]
  · cases e with
    | identity k x => exact absurd trivial other
    | counter => exact h.counters.get_add_same 0 k id rfl
    | openRuntime options =>
      rw [apply, Update.openRuntime_apply]
      exact h.counters.get_add_same 0 k id rfl
    | _ => rw [Heap.issued, outside.counters (by simp [footprint]), Heap.issued]

/-- The slots that have their identities from a counter, in the order of these. -/
structure HandsOut (h : Heap) (k : CounterRef) (slots : List Slot) : Prop where
  issued : (h.issued k).toInt = slots.length
  kept : ∀ x n, h.kept x = some ⟨k, n⟩ ↔ ∃ i : Nat, n.toInt = i ∧ slots[i]? = some x

/-- What comes of a request to a counter for the identity of what has a slot. -/
structure Requested (h : Heap) (k : CounterRef) (x : Slot) (answer : Except Error Int32)
    (h' : Heap) : Prop where
  /-- A slot that is filled is asked only. -/
  filled : ∀ id, h.kept x = some id → answer = .ok id.number ∧ h' = h
  exhausted : h.kept x = none → h.issued k = Int32.maxValue →
    answer = .error .identitiesExhausted ∧ h' = h
  /-- The first request fills the slot, and no other one. -/
  first : h.kept x = none → h.issued k ≠ Int32.maxValue →
    answer = .ok (h.issued k) ∧ (h'.issued k).toInt = (h.issued k).toInt + 1 ∧
      (∀ j, j ≠ k → h'.issued j = h.issued j) ∧
      ∀ y, h'.kept y = if y = x then some ⟨k, h.issued k⟩ else h.kept y

namespace HandsOut

variable {h h' : Heap} {k : CounterRef} {slots : List Slot}

/-- The list is determined by the heap. -/
theorem unique {slots' : List Slot} (out : HandsOut h k slots) (out' : HandsOut h k slots') :
    slots = slots' := by
  have lengths : slots.length = slots'.length := by
    have both := out.issued.symm.trans out'.issued
    omega
  refine List.ext_getElem? fun i => ?_
  by_cases inside : i < slots.length
  · have held := List.getElem?_eq_getElem inside
    have small : (Int32.ofNat i).toInt = i := by
      have upper := Int32.toInt_lt (h.issued k)
      have issued := out.issued
      exact Int32.toInt_ofNat_of_lt (by omega)
    obtain ⟨j, same, held'⟩ := (out'.kept _ _).1 ((out.kept _ _).2 ⟨i, small, held⟩)
    have index : i = j := by omega
    rw [held, ← held', index]
  · rw [List.getElem?_eq_none (by omega), List.getElem?_eq_none (by omega)]

theorem same (out : HandsOut h k slots) (ledger : SameLedger h h') : HandsOut h' k slots := by
  refine ⟨(congrArg Int32.toInt (ledger.issued k)).trans out.issued, fun x n => ?_⟩
  rw [ledger.kept]
  exact out.kept x n

/-- The first request for a slot adds it to the list of the counter that was asked. -/
theorem request (out : HandsOut h k slots) {x : Slot} {answer : Except Error Int32}
    (requested : Requested h k x answer h') (empty : h.kept x = none)
    (more : h.issued k ≠ Int32.maxValue) : HandsOut h' k (slots ++ [x]) := by
  obtain ⟨_, issued, _, kept⟩ := requested.first empty more
  refine ⟨?_, fun y n => ?_⟩
  · rw [issued, out.issued, List.length_append]
    rfl
  · rw [kept]
    split
    · next same =>
      subst same
      constructor
      · rintro ⟨⟩
        refine ⟨slots.length, out.issued, ?_⟩
        rw [List.getElem?_concat_length]
      · rintro ⟨i, number, held⟩
        rw [List.getElem?_append] at held
        split at held
        · exact absurd (empty.symm.trans ((out.kept y n).2 ⟨i, number, held⟩)) nofun
        · next beyond =>
          have last : i = slots.length := by
            have inside := (List.getElem?_eq_some_iff.1 held).1
            rw [List.length_singleton] at inside
            omega
          have same : h.issued k = n := by
            rw [← Int32.toInt_inj, out.issued, number, last]
          rw [same]
    · next apart =>
      rw [out.kept]
      refine exists_congr fun i => and_congr_right fun _ => ?_
      rw [List.getElem?_append]
      split
      · rfl
      · next beyond =>
        rw [List.getElem?_eq_none (by omega)]
        constructor
        · nofun
        · intro held
          exact absurd (List.mem_singleton.1 (List.mem_of_getElem? held)) apart

/-- The lists of other counters stay as they are. -/
theorem request_other (out : HandsOut h k slots) {j : CounterRef} (apart : j ≠ k) {x : Slot}
    {answer : Except Error Int32} (requested : Requested h j x answer h') (empty : h.kept x = none)
    (more : h.issued j ≠ Int32.maxValue) : HandsOut h' k slots := by
  obtain ⟨_, _, others, kept⟩ := requested.first empty more
  refine ⟨(congrArg Int32.toInt (others k apart.symm)).trans out.issued, fun y n => ?_⟩
  rw [← out.kept, kept]
  split
  · next same =>
    rw [same, empty]
    constructor
    · rintro ⟨⟩
      exact absurd rfl apart
    · nofun
  · rfl

end HandsOut

namespace Heap

variable {h h' : Heap}

/-- The slot is part of the heap. -/
def hasSlot (h : Heap) : Slot → Bool
  | .object o => h.objects.isLive o
  | .function f => h.functions.isLive f

theorem Closed.hasSlot (closed : h.Closed) {x : Identified} (there : h.hasIdentified x = true) :
    h.hasSlot (h.slot x) = true := by
  cases x with
  | object o => exact there
  | function f => exact there
  | klass c => exact (closed.klass there).statics

theorem kept_keep {x : Slot} (there : h.hasSlot x = true) (id : Identity) (y : Slot) :
    (h.keep x id).kept y = if y = x then some id else h.kept y := by
  cases x with
  | object o =>
    cases y with
    | object p =>
      simp only [keep, kept, object, Slot.object.injEq]
      rw [Arena.get_modify there]
      split <;> rfl
    | function g => rfl
  | function f =>
    cases y with
    | object p => rfl
    | function g =>
      simp only [keep, kept, function, Slot.function.injEq]
      rw [Arena.get_modify there]
      split <;> rfl

theorem issued_keep (h : Heap) (x : Slot) (id : Identity) (k : CounterRef) :
    (h.keep x id).issued k = h.issued k := by
  cases x <;> rfl

theorem kept_advance (h : Heap) (k : CounterRef) (x : Slot) : (h.advance k).kept x = h.kept x := by
  cases x <;> rfl

theorem issued_advance {k : CounterRef} (live : h.counters.isLive k = true) (j : CounterRef) :
    (h.advance k).issued j = if j = k then h.issued k + 1 else h.issued j := by
  rw [issued, advance, Arena.get_modify live]
  rfl

theorem Extends.kept (extended : h.Extends h') {x : Slot} {id : Identity}
    (filled : h.kept x = some id) : h'.kept x = some id := by
  cases x with
  | object o =>
    by_cases live : h.objects.isLive o = true
    · exact (extended.object live).identity id filled
    · rw [Heap.kept, Heap.object, Arena.get_of_not_isLive live] at filled
      cases filled
  | function f =>
    by_cases live : h.functions.isLive f = true
    · exact (extended.function live).identity id filled
    · rw [Heap.kept, Heap.function, Arena.get_of_not_isLive live] at filled
      cases filled

end Heap

/-- What a request does, through any counter and for any thing of a closed heap. -/
theorem requested_identityOf {h : Heap} (closed : h.Closed) {k : CounterRef} {x : Identified}
    (live : h.counters.isLive k = true) (there : h.hasIdentified x = true) :
    Requested h k (h.slot x) (Update.identityOf k x h).1 (Update.identityOf k x h).2 := by
  rw [Update.identityOf_apply]
  refine ⟨?_, ?_, ?_⟩
  · intro id filled
    rw [filled]
    exact ⟨rfl, rfl⟩
  · intro empty exhausted
    rw [empty]
    dsimp only
    rw [if_pos exhausted]
    exact ⟨rfl, rfl⟩
  · intro empty more
    have slot : (h.advance k).hasSlot (h.slot x) = true := closed.hasSlot there
    rw [empty]
    dsimp only
    rw [if_neg more]
    refine ⟨rfl, ?_, ?_, ?_⟩
    · rw [Heap.issued_keep, Heap.issued_advance live, if_pos rfl]
      exact toInt_add_one_of_ne_maxValue more
    · intro j apart
      rw [Heap.issued_keep, Heap.issued_advance live, if_neg apart]
    · intro y
      rw [Heap.kept_keep slot, Heap.kept_advance]

/-- Every event adds at most something at the end of a list. -/
theorem Event.handsOut {watch : Watch} {h : Heap} {e : Event} (closed : h.Closed)
    (allowed : e.Allowed watch h) {k : CounterRef} {slots : List Slot} (out : HandsOut h k slots) :
    ∃ more, HandsOut (e.apply h) k (slots ++ more) := by
  have unchanged : HandsOut (e.apply h) k slots → ∃ more, HandsOut (e.apply h) k (slots ++ more) :=
    fun same => ⟨[], by rwa [List.append_nil]⟩
  by_cases identity : e.IsIdentity
  · cases e with
    | identity j x =>
      have requested := requested_identityOf closed allowed.1 allowed.2
      cases filled : h.kept (h.slot x) with
      | some id =>
        rw [apply, (requested.filled id filled).2] at unchanged ⊢
        exact unchanged out
      | none =>
        by_cases exhausted : h.issued j = Int32.maxValue
        · rw [apply, (requested.exhausted filled exhausted).2] at unchanged ⊢
          exact unchanged out
        · by_cases asked : j = k
          · subst asked
            exact ⟨_, out.request requested filled exhausted⟩
          · exact unchanged (out.request_other asked requested filled exhausted)
    | _ => cases identity
  · exact unchanged (out.same (Event.sameLedger identity h))

theorem handsOut_empty (k : CounterRef) : HandsOut {} k [] := by
  have nothing : ∀ x, ({} : Heap).kept x = none := by
    intro x
    cases x with
    | object o =>
      rw [Heap.kept, Heap.object, Arena.get_of_not_isLive (by simp [Arena.isLive, Arena.size])]
      rfl
    | function f =>
      rw [Heap.kept, Heap.function, Arena.get_of_not_isLive (by simp [Arena.isLive, Arena.size])]
      rfl
  refine ⟨?_, fun x n => ?_⟩
  · rw [Heap.issued, Arena.get_of_not_isLive (by simp [Arena.isLive, Arena.size])]
    rfl
  · rw [nothing]
    constructor
    · intro filled
      cases filled
    · rintro ⟨i, _, held⟩
      cases held

theorem Trace.handsOut {watch : Watch} {h h' : Heap} {es : List Event} (trace : Trace watch h es h')
    (closed : h.Closed) {k : CounterRef} {slots : List Slot} (out : HandsOut h k slots) :
    ∃ more, HandsOut h' k (slots ++ more) := by
  induction trace generalizing slots with
  | nil => exact ⟨[], by simpa using out⟩
  | cons allowed _ ih =>
    obtain ⟨first, between⟩ := Event.handsOut closed allowed out
    obtain ⟨rest, last⟩ := ih (Event.closed closed allowed) between
    exact ⟨first ++ rest, by rwa [List.append_assoc] at last⟩

theorem Heap.Reached.handsOut {watch : Watch} {h : Heap} (reached : h.Reached watch)
    (k : CounterRef) : ∃ slots, HandsOut h k slots := by
  obtain ⟨es, trace⟩ := reached
  obtain ⟨slots, out⟩ := trace.handsOut Heap.closed_empty (handsOut_empty k)
  exact ⟨_, out⟩

/-- The list of an earlier heap begins that of a later one. -/
theorem Trace.handsOut_prefix {watch : Watch} {h h' : Heap} {es : List Event}
    (trace : Trace watch h es h') (closed : h.Closed) {k : CounterRef} {slots slots' : List Slot}
    (out : HandsOut h k slots) (out' : HandsOut h' k slots') : slots <+: slots' := by
  obtain ⟨more, later⟩ := trace.handsOut closed out
  exact ⟨more, later.unique out'⟩

end ProtoClass
