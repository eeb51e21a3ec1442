import ProtoClass.Proofs.Described
import ProtoClass.Proofs.Tables

set_option autoImplicit false

namespace ProtoClass

namespace Heap

variable {h h' : Heap}

theorem chain_congr (same : ∀ p, (h'.object p).prototype = (h.object p).prototype) (o : ObjectRef) :
    h'.chain o = h.chain o := by
  induction o using (measure Ref.id).wf.induction with
  | _ o ih =>
    rw [chain, chain, same]
    cases (h.object o).prototype with
    | none => rfl
    | some p =>
      by_cases older : p.id < o.id
      · simp [older, ih p older]
      · simp [older]

/-- What an object sees is what it has, or what the rest of its chain has. -/
theorem get_eq_or (h : Heap) (o : ObjectRef) (name : String) :
    h.get o name = (h.getOwn o name).or ((h.chain o).tail.findSome? fun p => h.getOwn p name) := by
  rw [get, chain, List.findSome?_cons, List.tail_cons]
  cases h.getOwn o name <;> rfl

theorem getOwn_eq_none_of_get {o : ObjectRef} {name : String} (unseen : h.get o name = none) :
    h.getOwn o name = none := by
  rw [get_eq_or, Option.or_eq_none_iff] at unseen
  exact unseen.1

/-- A change of the properties of one object that leaves those under a name alone is not seen under
that name. -/
theorem get_mapProperties {o : ObjectRef} (live : h.objects.isLive o = true)
    {f : PropertyTable → PropertyTable} {name : String}
    (same : (f (h.object o).properties).get? name = (h.object o).properties.get? name)
    (p : ObjectRef) : (h.mapProperties o f).get p name = h.get p name := by
  have chain : (h.mapProperties o f).chain p = h.chain p :=
    chain_congr (fun q => h.object_mapProperties o f q ObjectCell.prototype fun _ _ => rfl) p
  have own : (fun q => (h.mapProperties o f).getOwn q name) = fun q => h.getOwn q name := by
    funext q
    by_cases here : q = o
    · rw [here, getOwn, ownProperty_mapProperties live, same, getOwn, ownProperty]
    · rw [getOwn, ownProperty, properties_mapProperties_of_ne h here, getOwn, ownProperty]
  rw [get, get, chain, own]

/-- A change of the properties of an object is told by what it leaves of them. -/
theorem mapProperties_frame (h : Heap) {o : ObjectRef} (live : h.objects.isLive o = true)
    (f : PropertyTable → PropertyTable) :
    h.mapProperties o f = h.mapProperties o fun _ => ((h.mapProperties o f).object o).properties := by
  rw [properties_mapProperties live, mapProperties, mapProperties]
  congr 1
  refine Arena.modify_congr fun cell stored => ?_
  rw [Heap.object, Arena.get_of_get? stored]

/-- Does an installation on an object accept a name: is every value that the object sees under it
false, and is no property of the object itself pinned under it? -/
def accepts (h : Heap) (o : ObjectRef) (name : String) : Bool :=
  (h.get o name).all (fun v => !h.isTruthy v) && (h.ownProperty o name).all (·.flags.configurable)

/-- The names that an installation accepts, each where it comes first. -/
def accepted (h : Heap) (o : ObjectRef) (names : List String) : List String :=
  (names.filter (h.accepts o)).eraseDups

theorem mem_accepted {o : ObjectRef} {names : List String} {name : String} :
    name ∈ h.accepted o names ↔ name ∈ names ∧ h.accepts o name = true := by
  rw [accepted, List.mem_eraseDups, List.mem_filter]

theorem accepts_of_unseen {o : ObjectRef} {name : String} (unseen : h.get o name = none) :
    h.accepts o name = true := by
  have absent : h.ownProperty o name = none :=
    Option.map_eq_none_iff.1 (getOwn_eq_none_of_get unseen)
  rw [accepts, unseen, absent]
  rfl

theorem accepts_of_seen {o : ObjectRef} {name : String} {existing : Value}
    (seen : h.get o name = some existing) (truthy : h.isTruthy existing = true) :
    h.accepts o name = false := by
  rw [accepts, seen, Option.all_some, truthy]
  rfl

end Heap

theorem PropertyTable.define_fst (t : PropertyTable) (name : String) (value : Value) (flags : Flags) :
    (t.define name value flags).1 = (t.get? name).all (·.flags.configurable) := by
  simp only [define, get?, RawTable.define]
  cases t.raw.get? name with
  | none => rfl
  | some p => cases pinned : p.flags.configurable <;> simp [pinned]

namespace Update

variable {h : Heap} {o : ObjectRef}

/-- Installing one property defines it, or does nothing where the name is not accepted. -/
theorem installOne_apply (o : ObjectRef) (name : String) (value : Value) (h : Heap) :
    installOne o name value h =
      if h.accepts o name then
        (true, h.mapProperties o fun t => (t.define name value .hidden).2)
      else (false, h) := by
  have first : (define o name value .hidden h).1 =
      (h.ownProperty o name).all (·.flags.configurable) :=
    PropertyTable.define_fst _ name value .hidden
  have defined : define o name value .hidden h =
      if (h.ownProperty o name).all (·.flags.configurable) then
        (true, h.mapProperties o fun t => (t.define name value .hidden).2)
      else (false, h) := by
    rw [← first]
    split
    · next yes => exact Prod.ext yes (changeProperties_heap o _ h)
    · next no => exact Prod.ext (Bool.eq_false_iff.2 no) (define_refused (Bool.eq_false_iff.2 no))
  unfold installOne
  rw [bind_apply, get_apply, Heap.accepts]
  cases h.get o name with
  | none => simpa using defined
  | some existing =>
    dsimp only
    cases truthy : h.isTruthy existing with
    | true => simp [truthy, pure_apply]
    | false => simpa [truthy] using defined

theorem installOne_of_refused {name : String} (refused : h.accepts o name = false) (value : Value) :
    installOne o name value h = (false, h) := by
  rw [installOne_apply, refused]
  rfl

theorem installOne_of_accepted {name : String} (accepted : h.accepts o name = true) (value : Value) :
    installOne o name value h =
      (true, h.mapProperties o fun t => (t.define name value .hidden).2) := by
  rw [installOne_apply, if_pos accepted]

theorem isTruthy_installOne (o : ObjectRef) (name : String) (value : Value) (h : Heap) (v : Value) :
    (installOne o name value h).2.isTruthy v = h.isTruthy v := by
  obtain ⟨f, changed, _⟩ := installOne_heap o name value h
  rw [changed]
  cases v <;> rfl

section One

variable (live : h.objects.isLive o = true) (name : String) (value : Value)
include live

theorem ownProperty_installOne (other : String) :
    (installOne o name value h).2.ownProperty o other =
      if other = name ∧ h.accepts o name = true then some ⟨name, value, .hidden⟩
      else h.ownProperty o other := by
  cases accepted : h.accepts o name with
  | false => simp [installOne_of_refused accepted]
  | true =>
    rw [installOne_of_accepted accepted, Heap.ownProperty_mapProperties live,
      PropertyTable.get?_define]
    by_cases same : other = name
    · have free := (Bool.and_eq_true_iff.1 accepted).2
      rw [if_pos same, if_pos ⟨same, rfl⟩, PropertyTable.redefined]
      rw [Heap.ownProperty] at free
      cases found : (h.object o).properties.get? name with
      | none => rfl
      | some p =>
        rw [found, Option.all_some] at free
        dsimp only
        rw [if_pos free]
    · rw [if_neg same, if_neg fun both => same both.1, Heap.ownProperty]

/-- A name that was accepted is not accepted again; whether another one is has not changed. -/
theorem accepts_installOne (other : String) :
    (installOne o name value h).2.accepts o other = (h.accepts o other && other != name) := by
  cases accepted : h.accepts o name with
  | false =>
    rw [installOne_of_refused accepted]
    by_cases same : other = name
    · rw [same, accepted, Bool.false_and]
    · rw [bne_iff_ne.2 same, Bool.and_true]
  | true =>
    by_cases same : other = name
    · rw [same, Heap.accepts, ownProperty_installOne live, if_pos ⟨rfl, accepted⟩, Option.all_some]
      simp [Flags.hidden]
    · have own := ownProperty_installOne live name value other
      rw [if_neg fun both => same both.1] at own
      have truthy : (fun v => !(installOne o name value h).2.isTruthy v) = fun v => !h.isTruthy v :=
        funext fun v => by rw [isTruthy_installOne]
      have seen : (installOne o name value h).2.get o other = h.get o other := by
        rw [installOne_of_accepted accepted]
        refine Heap.get_mapProperties live ?_ o
        rw [PropertyTable.get?_define, if_neg same]
      rw [Heap.accepts, own, seen, truthy, bne_iff_ne.2 same, Bool.and_true, Heap.accepts]

theorem accepted_installOne (names : List String) :
    h.accepted o (name :: names) =
      if h.accepts o name then name :: (installOne o name value h).2.accepted o names
      else (installOne o name value h).2.accepted o names := by
  have rest : names.filter ((installOne o name value h).2.accepts o) =
      (names.filter (h.accepts o)).filter (· != name) := by
    rw [List.filter_filter]
    refine List.filter_congr fun other _ => ?_
    rw [accepts_installOne live, Bool.and_comm]
  cases accepted : h.accepts o name with
  | false => simp [Heap.accepted, accepted, installOne_of_refused accepted]
  | true =>
    rw [if_pos rfl, Heap.accepted, List.filter_cons_of_pos accepted, List.eraseDups_cons,
      Heap.accepted, rest]
    rfl

end One

theorem install_cons (target : ObjectRef) (entry : String × Value) (rest : List (String × Value))
    (h : Heap) :
    install target (entry :: rest) h =
      let first := installOne target entry.1 entry.2 h
      let others := install target rest first.2
      (if first.1 then others.1 + 1 else others.1, others.2) := rfl

/-- Where no name is accepted, nothing happens. -/
theorem install_of_refused {entries : List (String × Value)}
    (refused : ∀ entry ∈ entries, h.accepts o entry.1 = false) : install o entries h = (0, h) := by
  induction entries with
  | nil => rfl
  | cons entry rest ih =>
    obtain ⟨first, others⟩ := List.forall_mem_cons.1 refused
    rw [install_cons, installOne_of_refused first]
    dsimp only
    rw [ih others]
    rfl

section Several

variable (live : h.objects.isLive o = true) (entries : List (String × Value))
include live

/-- Under an accepted name stands the first value that was to be installed. -/
theorem ownProperty_install (name : String) :
    (install o entries h).2.ownProperty o name =
      if h.accepts o name then
        ((entries.lookup name).map fun value => ⟨name, value, .hidden⟩).or (h.ownProperty o name)
      else h.ownProperty o name := by
  induction entries generalizing h with
  | nil => simp [install, pure_apply]
  | cons entry rest ih =>
    have still : (installOne o entry.1 entry.2 h).2.objects.isLive o = true := by
      rw [isLive_installOne, live]
    rw [install_cons_heap, ih still, accepts_installOne live, ownProperty_installOne live,
      List.lookup_cons]
    by_cases same : name = entry.1
    · subst same
      cases h.accepts o entry.1 <;> simp
    · have apart : ¬(name = entry.1 ∧ h.accepts o entry.1 = true) := fun both => same both.1
      rw [beq_eq_false_iff_ne.2 same, bne_iff_ne.2 same, Bool.and_true, if_neg apart]

variable {entries} in
theorem ownProperty_install_of_not_mem {name : String} (apart : name ∉ entries.map Prod.fst) :
    (install o entries h).2.ownProperty o name = h.ownProperty o name := by
  have absent : entries.lookup name = none := by
    rw [List.lookup_eq_none_iff]
    intro entry member
    refine bne_iff_ne.2 fun same => apart ?_
    exact List.mem_map.2 ⟨entry, member, same.symm⟩
  rw [ownProperty_install live, absent]
  exact ite_self _

theorem names_install :
    ((install o entries h).2.object o).properties.names =
      (h.object o).properties.names ++
        (h.accepted o (entries.map Prod.fst)).filter (· ∉ (h.object o).properties.names) := by
  induction entries generalizing h with
  | nil => simp [install, pure_apply, Heap.accepted]
  | cons entry rest ih =>
    have still : (installOne o entry.1 entry.2 h).2.objects.isLive o = true := by
      rw [isLive_installOne, live]
    rw [install_cons_heap, ih still, List.map_cons,
      accepted_installOne live entry.1 entry.2 (rest.map Prod.fst)]
    cases accepted : h.accepts o entry.1 with
    | false => simp [installOne_of_refused accepted]
    | true =>
      -- the name itself is not accepted a second time, so it does not come again
      have apart : ∀ name ∈ (installOne o entry.1 entry.2 h).2.accepted o (rest.map Prod.fst),
          name ≠ entry.1 := by
        rintro name member rfl
        have again := (Heap.mem_accepted.1 member).2
        rw [accepts_installOne live, bne_self_eq_false, Bool.and_false] at again
        cases again
      have names : ((installOne o entry.1 entry.2 h).2.object o).properties.names =
          if entry.1 ∈ (h.object o).properties.names then (h.object o).properties.names
          else (h.object o).properties.names ++ [entry.1] := by
        rw [installOne_of_accepted accepted, Heap.properties_mapProperties live,
          PropertyTable.names_define]
      rw [if_pos rfl, names]
      by_cases old : entry.1 ∈ (h.object o).properties.names
      · rw [if_pos old, List.filter_cons_of_neg (by simpa using old)]
      · rw [if_neg old, List.filter_cons_of_pos (by simpa using old), List.append_assoc,
          List.singleton_append]
        congr 2
        refine List.filter_congr fun name member => ?_
        simp [apart name member]

theorem install_count :
    (install o entries h).1 = (h.accepted o (entries.map Prod.fst)).length := by
  induction entries generalizing h with
  | nil => rfl
  | cons entry rest ih =>
    have still : (installOne o entry.1 entry.2 h).2.objects.isLive o = true := by
      rw [isLive_installOne, live]
    rw [install_cons, List.map_cons, accepted_installOne live entry.1 entry.2 (rest.map Prod.fst)]
    dsimp only
    rw [ih still]
    cases accepted : h.accepts o entry.1 with
    | false => rw [installOne_of_refused accepted]; rfl
    | true => rw [installOne_of_accepted accepted]; rfl

/-- No name that was to be installed is accepted afterwards. -/
theorem accepts_install (name : String) :
    (install o entries h).2.accepts o name =
      (h.accepts o name && decide (name ∉ entries.map Prod.fst)) := by
  induction entries generalizing h with
  | nil => simp [install, pure_apply]
  | cons entry rest ih =>
    have still : (installOne o entry.1 entry.2 h).2.objects.isLive o = true := by
      rw [isLive_installOne, live]
    rw [install_cons_heap, ih still, accepts_installOne live, Bool.and_assoc]
    congr 1
    rw [List.map_cons, Bool.eq_iff_iff]
    simp

/-- The properties of its target are all that an installation changes. -/
theorem install_frame :
    (install o entries h).2 =
      h.mapProperties o fun _ => ((install o entries h).2.object o).properties := by
  obtain ⟨f, changed, _⟩ := install_heap o entries h
  rw [changed]
  exact h.mapProperties_frame live f

end Several

/-- An installation gives an object the properties under those names that it saw nothing of, when
what it saw under the other names was true. -/
theorem install_ownProperty {entries : List (String × Value)} (live : h.objects.isLive o = true)
    (truthy : ∀ entry ∈ entries, ∀ v, h.get o entry.1 = some v → h.isTruthy v = true)
    (name : String) :
    (install o entries h).2.ownProperty o name =
      if (h.get o name).isSome then h.ownProperty o name
      else (entries.lookup name).map fun value => ⟨name, value, .hidden⟩ := by
  rw [ownProperty_install live]
  cases seen : h.get o name with
  | none =>
    have absent : h.ownProperty o name = none :=
      Option.map_eq_none_iff.1 (Heap.getOwn_eq_none_of_get seen)
    rw [Heap.accepts_of_unseen seen, absent, Option.or_none]
    rfl
  | some v =>
    cases listed : entries.lookup name with
    | none => simp
    | some value =>
      obtain ⟨before, after, rfl, _⟩ := List.lookup_eq_some_iff.1 listed
      have member : (name, value) ∈ before ++ (name, value) :: after :=
        List.mem_append_right _ List.mem_cons_self
      rw [Heap.accepts_of_seen seen (truthy _ member v seen)]
      rfl

end Update

/-- What an installation of entries on an object does to the heap, with the number that it answers. -/
structure FirstWins (h : Heap) (o : ObjectRef) (entries : List (String × Value)) (count : Nat)
    (h' : Heap) : Prop where
  /-- Under an accepted name stands the value of its first entry, pinned and hidden; -/
  installed : ∀ name value, h.accepts o name = true → entries.lookup name = some value →
    h'.ownProperty o name = some ⟨name, value, .hidden⟩
  /-- what is not accepted, or has no entry, stays as it was. -/
  untouched : ∀ name, h.accepts o name = false ∨ name ∉ entries.map Prod.fst →
    h'.ownProperty o name = h.ownProperty o name
  /-- Old names keep their places; new ones follow in the order of their first entries. -/
  names : (h'.object o).properties.names = (h.object o).properties.names ++
    (h.accepted o (entries.map Prod.fst)).filter (· ∉ (h.object o).properties.names)
  count : count = (h.accepted o (entries.map Prod.fst)).length
  /-- Nothing but the properties of the object has changed. -/
  frame : h' = h.mapProperties o fun _ => (h'.object o).properties

theorem Update.firstWins {h : Heap} {o : ObjectRef} (live : h.objects.isLive o = true)
    (entries : List (String × Value)) :
    FirstWins h o entries (install o entries h).1 (install o entries h).2 where
  installed name value accepted listed := by
    rw [ownProperty_install live, if_pos accepted, listed]
    rfl
  untouched name spared := by
    rcases spared with refused | unlisted
    · rw [ownProperty_install live, if_neg (Bool.eq_false_iff.1 refused)]
    · exact ownProperty_install_of_not_mem live unlisted
  names := names_install live entries
  count := install_count live entries
  frame := install_frame live entries

/-- Without a watch every write is made. -/
theorem Setting.write_of_free {σ α : Type} {s : Setting σ} (free : s.watch = {}) {w : World σ}
    (o : ObjectRef) (u : Update α) (wrote : α → Bool) :
    s.write o u wrote w = some (.ok (u w.heap).1, { w with heap := (u w.heap).2 }) := by
  rw [Setting.write, free, if_neg]
  simp

theorem Setting.install_of_free {σ : Type} {s : Setting σ} (free : s.watch = {}) {w : World σ}
    {entries : List (String × Value)} (o : ObjectRef) :
    s.install o entries w = some (.ok (Update.install o entries w.heap).1,
      { w with heap := (Update.install o entries w.heap).2 }) :=
  Setting.write_of_free free o (Update.install o entries) _

/-- Without a watch an installation on an object that is there always has a result. -/
theorem Setting.perform_install {σ : Type} {w : World σ} {o : ObjectRef}
    {entries : List (String × Value)} (live : w.heap.objects.isLive o = true)
    (there : w.heap.hasEntries entries = true) (depth : Nat) :
    (Setting.within {} depth).perform (.install o entries) w =
      some (.ok (Update.install o entries w.heap).1,
        { w with heap := (Update.install o entries w.heap).2 }) := by
  have asked : Request.isLive w.heap (.install o entries) = true := by
    rw [Request.isLive, live, there]
    rfl
  exact (Setting.perform_apply asked rfl).trans (Setting.install_of_free rfl o)

/-- The first installation of a name on an object decides, whatever the object and its chain are: what
is installed there later under names that have had their turn is not installed. -/
theorem first_installation_wins {σ : Type} (w : World σ) (o : ObjectRef)
    (entries : List (String × Value)) (depth : Nat) (live : w.heap.objects.isLive o = true)
    (there : w.heap.hasEntries entries = true) :
    ∃ count w', (Setting.within {} depth).perform (.install o entries) w = some (.ok count, w') ∧
      w' = { w with heap := w'.heap } ∧ FirstWins w.heap o entries count w'.heap ∧
      ∀ later depth', w'.heap.hasEntries later = true →
        (∀ entry ∈ later, entry.1 ∈ entries.map Prod.fst) →
        (Setting.within {} depth').perform (.install o later) w' = some (.ok 0, w') := by
  refine ⟨_, _, Setting.perform_install live there depth, rfl, Update.firstWins live entries, ?_⟩
  intro later depth' there' again
  have live' : (Update.install o entries w.heap).2.objects.isLive o = true :=
    (w.heap.extends_install o entries).objects.isLive live
  have refused : ∀ entry ∈ later, (Update.install o entries w.heap).2.accepts o entry.1 = false := by
    intro entry member
    rw [Update.accepts_install live, decide_eq_false (not_not_intro (again entry member)),
      Bool.and_false]
  rw [Setting.perform_install live' there', Update.install_of_refused refused]

/-- An object with a false value of its own, which delegates to one with a true and a false value. -/
def delegating : World Unit where
  heap := (do
    let p ← Update.newObjectOf none [("a", .integer 1), ("b", .null)]
    Update.newObjectOf (some p) [("c", .boolean false)] : Update ObjectRef) {} |>.2
  state := ()

theorem delegating_installs :
    ∃ w', (Setting.within {} 0).perform (.install ⟨1⟩ [("a", .null), ("b", .integer 0),
        ("c", .integer 1), ("b", .integer 2), ("d", .null)]) delegating = some (.ok 3, w') ∧
      (w'.heap.object ⟨1⟩).properties.names = ["c", "b", "d"] ∧
      w'.heap.ownProperty ⟨1⟩ "b" = some ⟨"b", .integer 0, .hidden⟩ ∧
      (Setting.within {} 0).perform (.install ⟨1⟩ [("b", .integer 2)]) w' = some (.ok 0, w') := by
  obtain ⟨count, w', run, _, wins, again⟩ := first_installation_wins delegating ⟨1⟩
    [("a", .null), ("b", .integer 0), ("c", .integer 1), ("b", .integer 2), ("d", .null)] 0
    (by decide) (by decide)
  obtain rfl : count = 3 := wins.count.trans (by decide +kernel)
  refine ⟨w', run, wins.names.trans (by decide +kernel), ?_, ?_⟩
  · exact wins.installed "b" (.integer 0) (by decide +kernel) rfl
  · exact again [("b", .integer 2)] 0 rfl (by decide)

end ProtoClass
