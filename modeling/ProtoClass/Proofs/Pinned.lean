import ProtoClass.Proofs.Moment
import ProtoClass.Proofs.Ordered
import ProtoClass.Proofs.Writes
import ProtoClass.Proofs.WritingRequests

set_option autoImplicit false

/- A property that is not configurable stays: its object has it for ever, with the same flags, in the
same place among the properties that stay too, and with the same value if it is not writable. A value
that is not writable changes only when its very name is defined or deleted on its very object. Nothing
that programs do gets around this, since every event writes properties by the operations of tables. -/
namespace ProtoClass

namespace PropertyTable

/-- The later table has the pinned properties of the earlier one, with their flags, and with their
values where these are not writable. -/
def KeepsPinned (t t' : PropertyTable) : Prop :=
  ∀ name p, t.get? name = some p → p.flags.configurable = false →
    ∃ q, t'.get? name = some q ∧ q.flags = p.flags ∧ (p.flags.writable = false → q = p)

namespace KeepsPinned

theorem refl (t : PropertyTable) : t.KeepsPinned t :=
  fun _ p found _ => ⟨p, found, rfl, fun _ => rfl⟩

theorem trans {t₁ t₂ t₃ : PropertyTable} (first : t₁.KeepsPinned t₂) (second : t₂.KeepsPinned t₃) :
    t₁.KeepsPinned t₃ := by
  intro name p found pinned
  obtain ⟨q, found', flags, same⟩ := first name p found pinned
  obtain ⟨r, found'', flags', same'⟩ := second name q found' (flags ▸ pinned)
  refine ⟨r, found'', flags'.trans flags, fun readOnly => ?_⟩
  exact (same' (flags ▸ readOnly)).trans (same readOnly)

theorem onTable (call : TableCall) (t : PropertyTable) : t.KeepsPinned (call.onTable t).2 := by
  intro name p found pinned
  by_cases same : call.name = name
  · cases call with
    | set n value =>
      obtain rfl : n = name := same
      have left := t.get?_set n value n
      rw [if_pos rfl, assigned, found] at left
      cases writable : p.flags.writable with
      | true =>
        refine ⟨⟨n, value, p.flags⟩, ?_, rfl, fun readOnly => by cases readOnly⟩
        simpa [TableCall.onTable, writable] using left
      | false => exact ⟨p, by simpa [TableCall.onTable, writable] using left, rfl, fun _ => rfl⟩
    | define n value flags =>
      obtain rfl : n = name := same
      have left := t.get?_define n value flags n
      rw [if_pos rfl, redefined, found] at left
      exact ⟨p, by simpa [TableCall.onTable, pinned] using left, rfl, fun _ => rfl⟩
    | delete n =>
      obtain rfl : n = name := same
      have left := t.get?_delete n n
      rw [if_pos rfl, remaining, found] at left
      exact ⟨p, by simpa [TableCall.onTable, pinned] using left, rfl, fun _ => rfl⟩
  · rw [TableCall.get?_onTable_of_ne call t same]
    exact refl t name p found pinned

theorem run (calls : List TableCall) (t : PropertyTable) :
    t.KeepsPinned (TableCall.run TableCall.onTable calls t).2 := by
  induction calls generalizing t with
  | nil => exact refl t
  | cons call calls ih => exact (onTable call t).trans (ih _)

end KeepsPinned

/- Names that were there, and are there afterwards, keep their order. -/

section Order

variable {t : PropertyTable} {survives : String → Bool}

theorem names_onTable {call : TableCall} (t : PropertyTable) (other : ∀ name, call ≠ .delete name) :
    (call.onTable t).2.names =
      if call.name ∈ t.names then t.names else t.names ++ [call.name] := by
  cases call with
  | set name value => exact t.names_set name value
  | define name value flags => exact t.names_define name value flags
  | delete name => exact absurd rfl (other name)

theorem filter_names_run {calls : List TableCall} (others : ∀ name, .delete name ∉ calls)
    (there : ∀ name, survives name = true → name ∈ t.names) :
    (TableCall.run TableCall.onTable calls t).2.names.filter survives = t.names.filter survives := by
  induction calls generalizing t with
  | nil => rfl
  | cons call calls ih =>
    have names := names_onTable t fun name same => others name (same ▸ List.mem_cons_self)
    have still : ∀ name, survives name = true → name ∈ (call.onTable t).2.names := by
      intro name survived
      rw [names]
      split
      · exact there name survived
      · exact List.mem_append_left _ (there name survived)
    change (TableCall.run TableCall.onTable calls (call.onTable t).2).2.names.filter survives = _
    rw [ih (fun name member => others name (List.mem_cons_of_mem _ member)) still, names]
    split
    · rfl
    · next new =>
      -- a name at the end is new, so it is none of those that were there
      have lost : ¬ survives call.name = true := fun survived => new (there _ survived)
      rw [List.filter_append, List.filter_cons_of_neg lost, List.filter_nil, List.append_nil]

theorem filter_names_delete {name : String}
    (there : ∀ other, survives other = true → other ∈ (t.delete name).2.names) :
    (t.delete name).2.names.filter survives = t.names.filter survives := by
  rw [names_delete] at there ⊢
  split at there
  · next accepted =>
    rw [if_pos accepted, List.filter_filter]
    apply List.filter_congr
    intro other _
    cases survived : survives other with
    | false => rfl
    | true => exact (List.mem_filter.1 (there other survived)).2
  · next refused => rw [if_neg refused]

end Order

end PropertyTable

namespace Update

variable {h : Heap} {o : ObjectRef}

theorem properties_changeProperties (live : h.objects.isLive o = true)
    (f : PropertyTable → Bool × PropertyTable) :
    ((changeProperties o f h).2.object o).properties = (f (h.object o).properties).2 := by
  rw [changeProperties_heap, Heap.properties_mapProperties live]

/-- An installation makes nothing but hidden definitions on its target. -/
theorem properties_install (properties : List (String × Value)) (live : h.objects.isLive o = true) :
    ∃ calls : List TableCall, ((install o properties h).2.object o).properties =
        (TableCall.run TableCall.onTable calls (h.object o).properties).2 ∧
      ∀ call ∈ calls, ∃ name value, call = .define name value .hidden := by
  induction properties generalizing h with
  | nil => exact ⟨[], rfl, by simp⟩
  | cons entry rest ih =>
    have still : (installOne o entry.1 entry.2 h).2.objects.isLive o = true := by
      rw [isLive_installOne, live]
    obtain ⟨calls, last, hidden⟩ := ih still
    rw [install_cons_heap, last]
    rcases installOne_cases o entry.1 entry.2 h with same | defined
    · rw [same]
      exact ⟨calls, rfl, hidden⟩
    · rw [defined, define, properties_changeProperties live]
      refine ⟨.define entry.1 entry.2 .hidden :: calls, rfl, fun call member => ?_⟩
      rcases List.mem_cons.1 member with first | later
      · exact ⟨entry.1, entry.2, first⟩
      · exact hidden call later

/-- A property with a true value is left as it is by every installation. -/
theorem ownProperty_install_of_truthy {name : String} {p : Property}
    {properties : List (String × Value)} (live : h.objects.isLive o = true)
    (own : h.ownProperty o name = some p) (truthy : h.isTruthy p.value = true) :
    (install o properties h).2.ownProperty o name = some p := by
  have seen : h.get o name = some p.value := by
    rw [Heap.get_eq_or, Heap.getOwn, own]
    rfl
  rw [ownProperty_install live, Heap.accepts_of_seen seen truthy, own]
  rfl

end Update

/-- Does the event define or delete the property of an object under a name? An installation counts
where the object has a false value of its own. -/
def Event.Redefines (h : Heap) (o : ObjectRef) (name : String) : Event → Prop
  | define p n _ _ => p = o ∧ n = name
  | delete p n => p = o ∧ n = name
  | install p properties => p = o ∧ name ∈ properties.map Prod.fst ∧
      ∃ v, h.getOwn o name = some v ∧ h.isTruthy v = false
  | furnish p properties => p = o ∧ name ∈ properties.map Prod.fst ∧
      ∃ v, h.getOwn o name = some v ∧ h.isTruthy v = false
  | _ => False

namespace Event

variable {h : Heap} {o : ObjectRef} (live : h.objects.isLive o = true) (e : Event)
include live

/-- An event changes a table by calls, and deletes from it by a single one. -/
theorem properties_calls :
    ∃ calls : List TableCall, ((e.apply h).object o).properties =
        (TableCall.run TableCall.onTable calls (h.object o).properties).2 ∧
      ((∀ name, .delete name ∉ calls) ∨ ∃ name, calls = [.delete name]) := by
  by_cases here : e.written = some o
  · have installed := fun properties => Update.properties_install properties live
    cases e with
    | set p name value =>
      cases here
      exact ⟨[.set name value], Update.properties_changeProperties live _, Or.inl (by simp)⟩
    | define p name value flags =>
      cases here
      exact ⟨[.define name value flags], Update.properties_changeProperties live _, Or.inl (by simp)⟩
    | delete p name =>
      cases here
      exact ⟨[.delete name], Update.properties_changeProperties live _, Or.inr ⟨name, rfl⟩⟩
    | install p properties | furnish p properties =>
      cases here
      obtain ⟨calls, last, hidden⟩ := installed properties
      refine ⟨calls, last, Or.inl fun name member => ?_⟩
      obtain ⟨_, _, wrong⟩ := hidden _ member
      cases wrong
    | _ => cases here
  · exact ⟨[], properties_of_unwritten live here, Or.inl (by simp)⟩

theorem keepsPinned :
    (h.object o).properties.KeepsPinned ((e.apply h).object o).properties := by
  obtain ⟨calls, last, _⟩ := e.properties_calls live
  rw [last]
  exact .run calls _

theorem filter_names {survives : String → Bool}
    (before : ∀ name, survives name = true → name ∈ (h.object o).properties.names)
    (after : ∀ name, survives name = true → name ∈ ((e.apply h).object o).properties.names) :
    ((e.apply h).object o).properties.names.filter survives =
      (h.object o).properties.names.filter survives := by
  obtain ⟨calls, last, others | ⟨name, single⟩⟩ := e.properties_calls live
  · rw [last]
    exact PropertyTable.filter_names_run others before
  · rw [single] at last
    rw [last] at after ⊢
    exact PropertyTable.filter_names_delete after

/-- A property that is not writable is left as it is by all events but those that define or delete it. -/
theorem ownProperty_of_readOnly {name : String} {p : Property}
    (own : h.ownProperty o name = some p) (readOnly : p.flags.writable = false)
    (kept : ¬ e.Redefines h o name) : (e.apply h).ownProperty o name = some p := by
  by_cases writes : e.Writes o name
  · have installed : ∀ properties, ¬ (∃ v, h.getOwn o name = some v ∧ h.isTruthy v = false) →
        (Update.install o properties h).2.ownProperty o name = some p := by
      intro properties truthy
      apply Update.ownProperty_install_of_truthy live own
      rw [← Bool.not_eq_false]
      intro falsy
      exact truthy ⟨p.value, by rw [Heap.getOwn, own]; rfl, falsy⟩
    cases e with
    | set q n value =>
      obtain ⟨rfl, rfl⟩ := writes
      have found : (h.object q).properties.get? n = some p := own
      rw [apply, Update.set, Heap.ownProperty, Update.properties_changeProperties live,
        PropertyTable.get?_set, if_pos rfl, PropertyTable.assigned, found]
      simp [readOnly]
    | define q n value flags => exact absurd writes kept
    | delete q n => exact absurd writes kept
    | install q properties | furnish q properties =>
      obtain ⟨rfl, among⟩ := writes
      exact installed properties fun falsy => kept ⟨rfl, among, falsy⟩
    | _ => cases writes
  · rw [ownProperty_eq live writes, own]

end Event

/-- Does an object have a property under a name, now and after each of the events? -/
def Heap.survives (h : Heap) (o : ObjectRef) (name : String) : List Event → Bool
  | [] => (h.ownProperty o name).isSome
  | e :: es => (h.ownProperty o name).isSome && (e.apply h).survives o name es

theorem Heap.own_of_survives {h : Heap} {o : ObjectRef} {name : String} {es : List Event}
    (survives : h.survives o name es = true) : (h.ownProperty o name).isSome = true := by
  cases es with
  | nil => exact survives
  | cons e es => exact (Bool.and_eq_true_iff.1 survives).1

namespace Trace

variable {watch : Watch} {h h' : Heap} {es : List Event} {o : ObjectRef}

theorem pinned (trace : Trace watch h es h') (live : h.objects.isLive o = true) {name : String}
    {p : Property} (own : h.ownProperty o name = some p) (pinned : p.flags.configurable = false) :
    h.survives o name es = true ∧
      ∃ q, h'.ownProperty o name = some q ∧ q.flags = p.flags ∧
        (p.flags.writable = false → q.value = p.value) := by
  induction trace generalizing p with
  | nil => exact ⟨by rw [Heap.survives, own]; rfl, p, own, rfl, fun _ => rfl⟩
  | @cons h h' e es allowed _ ih =>
    obtain ⟨q, own', flags, same⟩ := e.keepsPinned live name p own pinned
    have live' := (Event.extends allowed).objects.isLive live
    obtain ⟨survives, r, own'', flags', same'⟩ := ih live' own' (flags ▸ pinned)
    refine ⟨?_, r, own'', flags'.trans flags, fun readOnly => ?_⟩
    · rw [Heap.survives, own, survives]
      rfl
    · rw [same' (flags ▸ readOnly), same readOnly]

theorem order (trace : Trace watch h es h') (live : h.objects.isLive o = true) :
    ((h'.object o).properties.names.filter fun name => h.survives o name es) =
      (h.object o).properties.names.filter fun name => h.survives o name es := by
  induction trace with
  | nil => rfl
  | @cons h h' e es allowed _ ih =>
    have there : ∀ {h : Heap} {name}, (h.ownProperty o name).isSome = true →
        name ∈ (h.object o).properties.names := by
      intro h name own
      obtain ⟨p, own⟩ := Option.isSome_iff_exists.1 own
      exact PropertyTable.mem_names_of_get? own
    have rest := ih ((Event.extends allowed).objects.isLive live)
    have first : (((e.apply h).object o).properties.names.filter fun name =>
        h.survives o name (e :: es)) =
        (h.object o).properties.names.filter fun name => h.survives o name (e :: es) := by
      apply e.filter_names live
      · intro name survives
        exact there (Heap.own_of_survives survives)
      · intro name survives
        exact there (Heap.own_of_survives (Bool.and_eq_true_iff.1 survives).2)
    rw [← first]
    simp only [Heap.survives, ← List.filter_filter]
    rw [rest]

theorem readOnly (trace : Trace watch h es h') (live : h.objects.isLive o = true) {name : String}
    {p : Property} (own : h.ownProperty o name = some p) (readOnly : p.flags.writable = false) :
    h'.ownProperty o name = some p ∨
      ∃ before e after h₁, es = before ++ e :: after ∧ Trace watch h before h₁ ∧
        h₁.ownProperty o name = some p ∧ e.Redefines h₁ o name := by
  induction trace with
  | nil => exact Or.inl own
  | @cons h h' e es allowed _ ih =>
    by_cases here : e.Redefines h o name
    · exact Or.inr ⟨[], e, es, h, rfl, .nil h, own, here⟩
    · have own' := e.ownProperty_of_readOnly live own readOnly here
      rcases ih ((Event.extends allowed).objects.isLive live) own' with same | found
      · exact Or.inl same
      · obtain ⟨before, later, after, h₁, split, trace, own'', redefines⟩ := found
        exact Or.inr ⟨e :: before, later, after, h₁, congrArg (List.cons e) split,
          .cons allowed trace, own'', redefines⟩

end Trace

/-- The property of an object under a name goes on to be this one, if it is. -/
def Heap.StaysOwn (o : ObjectRef) (name : String) (p : Property) (h h' : Heap) : Prop :=
  h.ownProperty o name = some p → h'.ownProperty o name = some p

namespace Heap.StaysOwn

variable {o : ObjectRef} {name : String} {p : Property} {h h' h'' : Heap}

theorem refl (o : ObjectRef) (name : String) (p : Property) (h : Heap) : StaysOwn o name p h h := id

theorem trans (first : StaysOwn o name p h h') (second : StaysOwn o name p h' h'') :
    StaysOwn o name p h h'' :=
  fun own => second (first own)

theorem live_of_own (own : h.ownProperty o name = some p) : h.objects.isLive o = true := by
  by_cases live : h.objects.isLive o = true
  · exact live
  · rw [ownProperty, Heap.object, Arena.get_of_not_isLive live] at own
    exact absurd own (by simp [default, PropertyTable.get?_empty])

theorem of_untouched (untouched : h.Untouched h') : StaysOwn o name p h h' := by
  intro own
  rw [ownProperty, (untouched o (live_of_own own)).2]
  exact own

theorem of_event {e : Event} (readOnly : p.flags.writable = false) (kept : ¬ e.Redefines h o name) :
    StaysOwn o name p h (e.apply h) :=
  fun own => Event.ownProperty_of_readOnly (live_of_own own) e own readOnly kept

end Heap.StaysOwn

end ProtoClass
