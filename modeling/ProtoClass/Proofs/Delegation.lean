import Mathlib.Data.List.TakeWhile
import ProtoClass.Proofs.Permanence
import ProtoClass.Proofs.Pinned

set_option autoImplicit false

/- A read goes along the chain of an object as far as the first object that has the name itself. So a
write is seen by those alone whose chain leads to the written object without meeting the name before,
and only under the name that was written; where the name was deleted, they see again what it had
hidden. -/
namespace ProtoClass

namespace Heap

/-- The objects of a chain that a read meets before it comes to one of them. -/
def before (h : Heap) (x o : ObjectRef) : List ObjectRef := (h.chain x).takeWhile (· ≠ o)

theorem ne_of_mem_before {h : Heap} {x o p : ObjectRef} (member : p ∈ h.before x o) : p ≠ o :=
  of_decide_eq_true (List.mem_takeWhile_imp (p := fun p => decide (p ≠ o)) member)

theorem before_self (h : Heap) (o : ObjectRef) : h.before o o = [] := by
  rw [before, chain, List.takeWhile_cons_of_neg (by simp)]

theorem hasOwn_eq_isSome (h : Heap) (o : ObjectRef) (name : String) :
    h.hasOwn o name = (h.getOwn o name).isSome := by
  rw [hasOwn, (refines_toList _).contains, ← TableCall.get?_eq_lookup, getOwn, Option.isSome_map,
    ownProperty]

namespace Closed

variable {h : Heap} (closed : h.Closed)
include closed

theorem chain_older {x o : ObjectRef} (on : o ∈ h.chain x) : o.id ≤ x.id := by
  induction x using closed.prototype_induction with
  | step x ih =>
    cases link : (h.object x).prototype with
    | none =>
      rw [chain_of_none link, List.mem_singleton] at on
      rw [on]
    | some p =>
      rw [closed.chain_of_some link, List.mem_cons] at on
      rcases on with rfl | above
      · exact Nat.le_refl _
      · have older := (closed.prototype_older link).1
        have := ih p link above
        omega

/-- No object is met again on the chain of what it delegates to. -/
theorem not_mem_chain_prototype {o p : ObjectRef} (link : (h.object o).prototype = some p) :
    o ∉ h.chain p := by
  intro on
  have older := (closed.prototype_older link).1
  have := closed.chain_older on
  omega

/-- Behind an object of a chain comes the chain of that object. -/
theorem chain_eq_append {x o : ObjectRef} (on : o ∈ h.chain x) :
    h.chain x = h.before x o ++ h.chain o := by
  by_cases same : x = o
  · rw [same, before_self, List.nil_append]
  · induction x using closed.prototype_induction with
    | step x ih =>
      cases link : (h.object x).prototype with
      | none =>
        rw [chain_of_none link, List.mem_singleton] at on
        exact absurd on.symm same
      | some p =>
        rw [closed.chain_of_some link, List.mem_cons] at on
        have above := on.resolve_left (Ne.symm same)
        rw [before, closed.chain_of_some link, List.takeWhile_cons_of_pos (by simpa using same),
          List.cons_append, ← before]
        by_cases last : p = o
        · rw [last, before_self, List.nil_append]
        · rw [← ih p link above last]

theorem get_eq_before_or {x o : ObjectRef} (on : o ∈ h.chain x) (name : String) :
    h.get x name = ((h.before x o).findSome? fun p => h.getOwn p name).or (h.get o name) := by
  rw [get, closed.chain_eq_append on, List.findSome?_append, ← get]

/-- What an object does not have itself is what it delegates to that is asked for it. -/
theorem get_of_getOwn_eq_none {o : ObjectRef} {name : String} (missing : h.getOwn o name = none) :
    h.get o name = (h.object o).prototype.bind fun p => h.get p name := by
  rw [get_eq_or, missing, Option.none_or]
  cases link : (h.object o).prototype with
  | none => rw [chain_of_none link]; rfl
  | some p => rw [closed.chain_of_some link]; rfl

end Closed

end Heap

namespace PropertyTable

variable {t : PropertyTable} {name : String}

theorem value_assigned (writable : ((t.get? name).any fun p => !p.flags.writable) = false)
    (value : Value) : (t.assigned name value).value = value := by
  unfold assigned
  cases found : t.get? name with
  | none => rfl
  | some p =>
    rw [found, Option.any_some, Bool.not_eq_false'] at writable
    simp only [writable, if_true]

theorem value_redefined (configurable : ((t.get? name).any fun p => !p.flags.configurable) = false)
    (value : Value) (flags : Flags) : (t.redefined name value flags).value = value := by
  unfold redefined
  cases found : t.get? name with
  | none => rfl
  | some p =>
    rw [found, Option.any_some, Bool.not_eq_false'] at configurable
    simp only [configurable, if_true]

end PropertyTable

namespace TableCall

theorem isRefused_of_accepted {call : TableCall} {t : PropertyTable}
    (accepted : (call.onTable t).1 = true) : call.isRefused t.toList = false := by
  rw [(call.onTable_onList t).1, onList] at accepted
  split at accepted
  · cases accepted
  · next permitted => exact Bool.eq_false_iff.2 permitted

/-- An accepted call leaves under its name the value that was written, or nothing. -/
theorem value_of_accepted {call : TableCall} {t : PropertyTable}
    (accepted : (call.onTable t).1 = true) :
    ((call.onTable t).2.get? call.name).map Property.value = call.added?.map Property.value := by
  have permitted := isRefused_of_accepted accepted
  cases call with
  | set name value =>
    rw [isRefused, ← get?_eq_lookup] at permitted
    have left := t.get?_set name value name
    rw [if_pos rfl] at left
    exact (congrArg _ left).trans (congrArg some (PropertyTable.value_assigned permitted value))
  | define name value flags =>
    rw [isRefused, ← get?_eq_lookup] at permitted
    have left := t.get?_define name value flags name
    rw [if_pos rfl] at left
    exact (congrArg _ left).trans (congrArg some (PropertyTable.value_redefined permitted value flags))
  | delete name => exact congrArg _ (get?_of_deleted t accepted)

/-- Makes a call on the properties of an object. -/
def onObject (o : ObjectRef) : TableCall → Update Bool
  | set name value => Update.set o name value
  | define name value flags => Update.define o name value flags
  | delete name => Update.delete o name

theorem onObject_eq (call : TableCall) (o : ObjectRef) :
    call.onObject o = Update.changeProperties o call.onTable := by
  cases call <;> rfl

theorem onObject_heap (call : TableCall) (o : ObjectRef) (h : Heap) :
    (call.onObject o h).2 = h.mapProperties o fun t => (call.onTable t).2 := by
  rw [onObject_eq, Update.changeProperties_heap]

theorem onObject_refused {call : TableCall} {o : ObjectRef} {h : Heap}
    (refused : (call.onObject o h).1 = false) : (call.onObject o h).2 = h := by
  cases call with
  | set name value => exact Update.set_refused refused
  | define name value flags => exact Update.define_refused refused
  | delete name => exact Update.delete_refused refused

/-- What is read under the name of a call through its object when the call was accepted: the value that
was written, and after a deletion what the object delegates to. -/
def leaves (h : Heap) (o : ObjectRef) : TableCall → Option Value
  | set _ value => some value
  | define _ value _ => some value
  | delete name => (h.object o).prototype.bind fun p => h.get p name

end TableCall

section Reads

variable {h : Heap} {o : ObjectRef} (call : TableCall)

theorem prototype_onObject (x : ObjectRef) :
    ((call.onObject o h).2.object x).prototype = (h.object x).prototype := by
  rw [call.onObject_heap]
  exact h.object_mapProperties o _ x ObjectCell.prototype fun _ _ => rfl

theorem chain_onObject (x : ObjectRef) : (call.onObject o h).2.chain x = h.chain x :=
  Heap.chain_congr (prototype_onObject call) x

theorem getOwn_onObject_of_ne {p : ObjectRef} (other : p ≠ o) (name : String) :
    (call.onObject o h).2.getOwn p name = h.getOwn p name := by
  rw [call.onObject_heap, Heap.getOwn, Heap.ownProperty, h.properties_mapProperties_of_ne other,
    Heap.getOwn, Heap.ownProperty]

/-- Objects that do not delegate to the written one see what they saw. -/
theorem get_onObject_of_not_mem {x : ObjectRef} (apart : o ∉ h.chain x) (name : String) :
    (call.onObject o h).2.get x name = h.get x name := by
  rw [Heap.get, chain_onObject, Heap.get]
  apply findSome?_congr
  intro p on
  apply getOwn_onObject_of_ne
  rintro rfl
  exact apart on

/-- Through what comes before the written object a read goes on as it did. -/
theorem get_onObject_eq_before_or (closed : h.Closed) {x : ObjectRef} (on : o ∈ h.chain x)
    (name : String) :
    (call.onObject o h).2.get x name =
      ((h.before x o).findSome? fun p => h.getOwn p name).or ((call.onObject o h).2.get o name) := by
  rw [Heap.get, chain_onObject, closed.chain_eq_append on, List.findSome?_append, Heap.get,
    chain_onObject]
  congr 1
  apply findSome?_congr
  intro p member
  exact getOwn_onObject_of_ne call (Heap.ne_of_mem_before member) name

variable (live : h.objects.isLive o = true)
include live

theorem get_onObject_of_ne {name : String} (other : name ≠ call.name) (x : ObjectRef) :
    (call.onObject o h).2.get x name = h.get x name := by
  rw [call.onObject_heap]
  exact Heap.get_mapProperties live (call.get?_onTable_of_ne _ (Ne.symm other)) x

theorem get_onObject_self (closed : h.Closed) (accepted : (call.onObject o h).1 = true) :
    (call.onObject o h).2.get o call.name = call.leaves h o := by
  have own : (call.onObject o h).2.getOwn o call.name = call.added?.map Property.value := by
    rw [call.onObject_heap, Heap.getOwn, Heap.ownProperty_mapProperties live]
    rw [call.onObject_eq] at accepted
    exact TableCall.value_of_accepted accepted
  cases call with
  | set name value => exact Heap.get_of_getOwn own
  | define name value flags => exact Heap.get_of_getOwn own
  | delete name =>
    -- the deletion is not seen behind `o`, since no chain comes back to where it began
    have closed' : ((TableCall.delete name).onObject o h).2.Closed := closed.delete o name
    rw [closed'.get_of_getOwn_eq_none own, prototype_onObject, TableCall.leaves]
    cases link : (h.object o).prototype with
    | none => rfl
    | some p => exact get_onObject_of_not_mem _ (closed.not_mem_chain_prototype link) name

end Reads

/-- What becomes of all reads when a call is made on an object. -/
structure ReadsFollow (h : Heap) (o : ObjectRef) (call : TableCall) : Prop where
  refused : (call.onObject o h).1 = false → (call.onObject o h).2 = h
  /-- Nothing changes under the other names, -/
  other : ∀ x name, name ≠ call.name → (call.onObject o h).2.get x name = h.get x name
  /-- nor for an object to which the written one is nothing, -/
  apart : ∀ x name, o ∉ h.chain x → (call.onObject o h).2.get x name = h.get x name
  /-- nor for one that meets the name before it comes to the written one. -/
  hidden : ∀ x, (∃ p ∈ h.before x o, h.hasOwn p call.name = true) →
    (call.onObject o h).2.get x call.name = h.get x call.name
  /-- All others see the call. -/
  seen : (call.onObject o h).1 = true → ∀ x, o ∈ h.chain x →
    (∀ p ∈ h.before x o, h.hasOwn p call.name = false) →
    (call.onObject o h).2.get x call.name = call.leaves h o

theorem readsFollow_of_closed {h : Heap} (closed : h.Closed) {o : ObjectRef}
    (live : h.objects.isLive o = true) (call : TableCall) : ReadsFollow h o call where
  refused := TableCall.onObject_refused
  other x name other := get_onObject_of_ne call live other x
  apart x name apart := get_onObject_of_not_mem call apart name
  hidden x meets := by
    by_cases on : o ∈ h.chain x
    · -- both reads end before they come to `o`
      have met : ((h.before x o).findSome? fun p => h.getOwn p call.name).isSome = true := by
        simpa only [List.findSome?_isSome_iff, Heap.hasOwn_eq_isSome] using meets
      obtain ⟨v, met⟩ := Option.isSome_iff_exists.1 met
      rw [get_onObject_eq_before_or call closed on, closed.get_eq_before_or on, met, Option.some_or,
        Option.some_or]
    · exact get_onObject_of_not_mem call on call.name
  seen accepted x on unmet := by
    have clear : ((h.before x o).findSome? fun p => h.getOwn p call.name) = none := by
      simpa only [List.findSome?_eq_none_iff, Heap.hasOwn_eq_isSome, Option.isSome_eq_false_iff,
        Option.isNone_iff_eq_none] using unmet
    rw [get_onObject_eq_before_or call closed on, clear, Option.none_or]
    exact get_onObject_self call live closed accepted

/-- In every heap, and in particular wherever a program can be, a write is read by those who delegate to
the written object past nothing that has the name, and by nobody else. -/
theorem reads_follow_writes :
    (∀ h : Heap, h.Closed → ∀ o call, h.objects.isLive o = true → ReadsFollow h o call) ∧
      ∀ watch (h : Heap), h.Reached watch → ∀ o call, h.objects.isLive o = true →
        ReadsFollow h o call := by
  constructor
  · intro h closed o call live
    exact readsFollow_of_closed closed live call
  · intro watch h reached o call live
    exact readsFollow_of_closed reached.closed live call

/-- Makes a chain of four objects, of which all but the third have a property of one name. -/
def exposing : Program Unit := Script.toProgram do
  let top ← Script.ask (.newObject none [("n", .integer 1)])
  let middle ← Script.ask (.newObject (some top) [("n", .integer 2)])
  let bare ← Script.ask (.newObject (some middle) [])
  return .object (← Script.ask (.newObject (some bare) [("n", .null)]))

/-- A deletion in the middle is seen by the object below it, but not by one that has the name itself. -/
theorem exposing_follows :
    ∃ m ∈ exposing.moments {} 1 () 20, m.heap.Closed ∧ m.heap.Reached {} ∧
      m.heap.objects.isLive ⟨1⟩ = true ∧ m.heap.get ⟨2⟩ "n" = some (.integer 2) ∧
      ((TableCall.delete "n").onObject ⟨1⟩ m.heap).2.get ⟨2⟩ "n" = some (.integer 1) ∧
      ((TableCall.delete "n").onObject ⟨1⟩ m.heap).2.get ⟨3⟩ "n" = some .null := by
  have ends : (exposing.moments {} 1 () 20).any (fun m =>
      m.heap.objects.isLive ⟨1⟩ && ((TableCall.delete "n").onObject ⟨1⟩ m.heap).1 &&
      decide (m.heap.chain ⟨2⟩ = [⟨2⟩, ⟨1⟩, ⟨0⟩]) && !m.heap.hasOwn ⟨2⟩ "n" &&
      decide (m.heap.get ⟨2⟩ "n" = some (.integer 2)) &&
      decide ((TableCall.delete "n").leaves m.heap ⟨1⟩ = some (.integer 1)) &&
      decide (m.heap.chain ⟨3⟩ = [⟨3⟩, ⟨2⟩, ⟨1⟩, ⟨0⟩]) && m.heap.hasOwn ⟨3⟩ "n" &&
      decide (m.heap.get ⟨3⟩ "n" = some .null)) = true := by
    decide +kernel
  obtain ⟨m, member, facts⟩ := List.any_eq_true.1 ends
  simp only [Bool.and_eq_true, decide_eq_true_iff, Bool.not_eq_true'] at facts
  obtain ⟨⟨⟨⟨⟨⟨⟨⟨live, accepted⟩, below⟩, bare⟩, covers⟩, top⟩, above⟩, own⟩, null⟩ := facts
  have reached : m.heap.Reached {} := (Program.sound_of_mem_moments member).reached
  have follow := reads_follow_writes.1 m.heap reached.closed ⟨1⟩ (.delete "n") live
  have follow' := reads_follow_writes.2 {} m.heap reached ⟨1⟩ (.delete "n") live
  refine ⟨m, member, reached.closed, reached, live, covers, ?_, ?_⟩
  · have clear : ∀ p ∈ m.heap.before ⟨2⟩ ⟨1⟩, m.heap.hasOwn p "n" = false := by
      intro p among
      rw [Heap.before, below] at among
      obtain rfl : p = ⟨2⟩ := by simpa using among
      exact bare
    rw [← top]
    exact follow.seen accepted ⟨2⟩ (by rw [below]; decide) clear
  · rw [← null]
    apply follow'.hidden ⟨3⟩
    refine ⟨⟨3⟩, ?_, own⟩
    rw [Heap.before, above]
    decide

end ProtoClass
