import ProtoClass.Proofs.SelfHosting
import ProtoClass.Proofs.Subtyping

set_option autoImplicit false

/- What a descriptor says can be asked in two ways: of the descriptor itself, and by calling members of
the object that stands for it, which read the properties of that object. As long as programs spare
descriptor objects, both give the same answers; and whether a value is an instance of a class, which
is answered along descriptors, is what the prototypes say. -/
namespace ProtoClass

/-- Is a value an instance of a class? An object is one when the prototype of the class is the object
or something it delegates to, a class when the metadata class is a subclass, and nothing else is. -/
def Heap.isInstanceOf (h : Heap) (rt : RuntimeRef) (c : ClassRef) : Value → Bool
  | .object o => (h.chain o).contains (h.klass c).prototype
  | .klass _ => (h.runtime rt).metadataClass.any fun m => h.isSubclassOf m c
  | _ => false

theorem Heap.Closed.prototype_induction {h : Heap} (closed : h.Closed) {P : ObjectRef → Prop}
    (step : ∀ o, (∀ p, (h.object o).prototype = some p → P p) → P o) (o : ObjectRef) : P o := by
  induction o using (measure Ref.id).wf.induction with
  | _ o ih => exact step o fun p link => ih p (closed.prototype_older link).1

section Linked

variable {h : Heap} (linked : Linked h) (closed : h.Closed)
include linked closed

/-- The prototypes of classes on the chain of an object are those above its own class. -/
theorem Linked.mem_chain_prototype {c : ClassRef} (live : h.classes.isLive c = true) (o : ObjectRef) :
    (h.klass c).prototype ∈ h.chain o ↔
      ∃ k, h.owningClass o = some k ∧ h.isSubclassOf k c = true := by
  induction o using closed.prototype_induction with
  | step o ih =>
    cases bound : (h.object o).boundClass with
    | some k =>
      have there := closed.bound_live bound
      have chain := linked.chain_prototype closed there
      rw [linked.bound_only o k bound] at chain
      rw [Heap.owningClass_of_bound bound, chain, List.mem_map]
      constructor
      · rintro ⟨s, above, same⟩
        obtain rfl := linked.distinct (closed.ancestry_live there s above) live same
        exact ⟨k, rfl, Heap.isSubclassOf_iff.2 above⟩
      · rintro ⟨_, ⟨⟩, below⟩
        exact ⟨c, Heap.isSubclassOf_iff.1 below, rfl⟩
    | none =>
      have other : (h.klass c).prototype ≠ o := by
        rintro rfl
        rw [linked.bound c live] at bound
        cases bound
      cases link : (h.object o).prototype with
      | none =>
        rw [Heap.owningClass, Heap.chain_of_none link, List.mem_singleton,
          List.findSome?_singleton, bound]
        refine ⟨fun same => absurd same other, ?_⟩
        rintro ⟨k, owned, _⟩
        cases owned
      | some p =>
        rw [closed.owningClass_of_some bound link, closed.chain_of_some link, List.mem_cons,
          or_iff_right other]
        exact ih p link

/-- A value is an instance of the classes above its own. -/
theorem Linked.isInstanceOf {rt : RuntimeRef} {c : ClassRef} (live : h.classes.isLive c = true)
    (v : Value) :
    h.isInstanceOf rt c v = (h.classOf rt v).any fun k => h.isSubclassOf k c := by
  cases v with
  | object o =>
    rw [Bool.eq_iff_iff, Option.any_eq_true, Heap.isInstanceOf, List.contains_iff_mem]
    exact linked.mem_chain_prototype closed live o
  | _ => rfl

end Linked

section Slots

variable {σ : Type} {w : World σ} {cell : DescriptorCell}

theorem descriptorName_apply (filled : w.heap.Filled cell) (member : String) :
    (Setting.descriptorName member (.object cell.object) : Action σ String) w =
      some (.ok cell.name, w) := by
  obtain ⟨name, _, units, properties⟩ := filled
  have found : w.heap.get cell.object "name" = some (.string name) :=
    Heap.get_slot (p := ⟨"name", .string name, .plain⟩) properties List.mem_cons_self
  have read : ((w.heap.get cell.object "name").map w.heap.display).getD "" = cell.name := by
    rw [found]
    exact (congrArg Utf16.decode units).trans (Utf16.decode_encode _)
  unfold Setting.descriptorName
  rw [Action.bind_of_ok rfl, Action.heap_bind_apply, read]
  rfl

theorem descriptorSlot_apply {slot : String} {v : Value}
    (found : w.heap.get cell.object slot = some v) (member : String) :
    (Setting.descriptorSlot member slot (.object cell.object) : Action σ Value) w =
      some (.ok v, w) := by
  unfold Setting.descriptorSlot
  rw [Action.bind_of_ok rfl, Action.heap_bind_apply, found]
  rfl

end Slots

namespace Watch

theorem mayWrite_sparing {h : Heap} {o : ObjectRef} (plain : h.IsPlain o) :
    sparing.mayWrite h o = true := by
  obtain ⟨descriptors, metadata⟩ := plain
  rw [sparing, Bool.and_eq_true, List.all_eq_true, List.all_eq_true]
  refine ⟨fun i member => decide_eq_true fun same => descriptors ⟨⟨i⟩, ?_, same⟩, fun i member => ?_⟩
  · exact (Arena.isLive_iff _ _).2 (List.mem_range.1 member)
  · rw [Option.all_eq_true]
    intro m set
    refine decide_eq_true fun same => metadata ⟨⟨i⟩, m, ?_, set, same⟩
    exact (Arena.isLive_iff _ _).2 (List.mem_range.1 member)

theorem sparing_permits : sparing.PermitsPlain where
  write _ _ := mayWrite_sparing
  ask _ _ := rfl

theorem SparesDescriptors.le_sparing {watch : Watch} (spares : watch.SparesDescriptors) :
    watch ≤ sparing where
  write h o write := mayWrite_sparing (spares h o write)
  ask _ _ _ := rfl
  shown _ _ := rfl

end Watch

section Members

variable {σ : Type} {w : World σ} {rt : RuntimeRef} {c : ClassRef} {d : DescriptorRef}

/-- The member of a descriptor object is one that is built in. -/
theorem perform_member (settled : w.heap.Settled .sparing) (runtime : w.heap.runtimes.isLive rt = true)
    (there : w.heap.descriptors.isLive d = true) (member : String) (b : Builtin)
    (among : ∀ constructorPrefix, (member, b) ∈ Update.descriptorSurface constructorPrefix)
    (other : member ∉ ["name", "prototype", "annotations", "superclass"]) {args : List Value}
    (live : args.all w.heap.hasValue = true) (n : Nat) :
    (Setting.within {} (n + 1)).perform
        (.invoke rt (.object (w.heap.descriptor d).object) member args) w =
      (Setting.within {} n).runBuiltin b rt (.object (w.heap.descriptor d).object) args w := by
  have closed := settled.reached.closed
  have pristine := settled.reached.pristine Watch.sparing_spares
  obtain ⟨f, found, code⟩ := pristine.get_member closed there among other
  have object : w.heap.hasValue (.object (w.heap.descriptor d).object) = true :=
    (closed.descriptor there).object
  have permitted : (Request.invoke rt (.object (w.heap.descriptor d).object) member args).isLive
      w.heap = true := by
    rw [Request.isLive, runtime, object, live]
    rfl
  have lookup : w.heap.lookup rt (.object (w.heap.descriptor d).object) member =
      some (.function f) := found
  refine (if_pos (Bool.and_eq_true_iff.2 ⟨permitted, rfl⟩)).trans ?_
  exact (Setting.invoke_apply lookup args).trans (call_builtin code rt _ args)

/-- A text is answered as a string of its units, which shows the text again. -/
theorem text_apply (text : String) :
    ∃ t w', (Action.text text : Action σ Value) w = some (.ok (.string t), w') ∧
      (w'.heap.string t).units = Utf16.encode text ∧ w'.heap.display (.string t) = text := by
  have units : ((Update.newText text w.heap).2.string w.heap.strings.fresh).units =
      Utf16.encode text := by
    simp [Update.newText, Update.newString, Heap.string]
  refine ⟨w.heap.strings.fresh, { w with heap := (Update.newText text w.heap).2 }, rfl, units, ?_⟩
  exact (congrArg Utf16.decode units).trans (Utf16.decode_encode text)

/-- As there is a metadata class, only values that have no class are refused. -/
theorem getClass_of_classless (s : Setting σ) (set : (w.heap.runtime rt).metadataClass ≠ none)
    {v : Value} (classless : w.heap.classOf rt v = none) :
    s.getClass rt v w = some (.error (.noClass v.kindName), w) := by
  cases v with
  | object o =>
    unfold Setting.getClass
    dsimp only
    rw [Action.heap_bind_apply, show w.heap.owningClass o = none from classless]
    rfl
  | klass k => exact absurd classless set
  | _ => rfl

/-- The member answers what the descriptor does, after the same work. -/
theorem isInstance_answers (settled : w.heap.Settled .sparing)
    (runtime : w.heap.runtimes.isLive rt = true) (described : (w.heap.klass c).descriptor = some d)
    (v : Value) (n : Nat) :
    ∃ w', (Setting.within {} (n + 1)).isInstance rt d v w =
        some (.ok (w.heap.isInstanceOf rt c v), w') ∧
      (Setting.within {} (n + 1)).descriptorIsInstance rt (.object (w.heap.descriptor d).object) [v] w =
        some (.ok (.boolean (w.heap.isInstanceOf rt c v)), w') := by
  have closed := settled.reached.closed
  have live := Heap.isLive_of_descriptor described
  have there := closed.descriptor_live described
  rw [settled.reached.linked.isInstanceOf closed live]
  cases belongs : w.heap.classOf rt v with
  | none =>
    obtain ⟨_, m, set, _⟩ := (settled.built rt runtime).metadata
    have attempted := Action.attempt_of_error
      (getClass_of_classless (Setting.within {} (n + 1)) (by simp [set]) belongs)
    refine ⟨w, Action.bind_of_ok attempted, ?_⟩
    exact (Action.bind_of_ok rfl).trans (Action.bind_of_ok attempted)
  | some k =>
    obtain ⟨e, w', run, outcome⟩ := perform_descriptorOf_succeeds Watch.sparing_permits
      Watch.sparing_spares.metadata settled runtime (closed.classOf_live runtime belongs) n
    have answered : (Setting.within {} (n + 1)).getClass rt v w = some (.ok e, w') :=
      (getClass_apply _ belongs).trans (Setting.perform_inv run).2.2
    have attempted := Action.attempt_of_ok answered
    have reached := outcome.settled.reached
    have kept := outcome.extended.descriptor there
    have same : w'.heap.isAssignableFrom d e = w.heap.isSubclassOf k c := by
      rw [reached.spineMirror.isAssignableFrom reached.closed outcome.descriptor
        ((outcome.extended.klass live).descriptor d described), Heap.isSubclassOf, Heap.isSubclassOf,
        closed.ancestry_later outcome.extended reached.closed (closed.classOf_live runtime belongs)]
    have search := (reached.pristine Watch.sparing_spares).spineContains reached.spineMirror
      reached.closed (reached.closed.descriptor_live outcome.descriptor)
      (outcome.extended.descriptors.isLive there)
    rw [kept, same] at search
    refine ⟨w', ?_, ?_⟩
    · rw [Option.any_some, ← same]
      exact Action.bind_of_ok attempted
    · refine (Action.bind_of_ok rfl).trans ((Action.bind_of_ok attempted).trans ?_)
      dsimp only
      rw [Action.heap_bind_apply, search]
      rfl

/-- Calling this member of an object answers with a string of this text. -/
def AnswersText (w : World σ) (rt : RuntimeRef) (o : ObjectRef) (member text : String) : Prop :=
  ∀ n args, args.all w.heap.hasValue = true → ∃ t w',
    (Setting.within {} (n + 1)).perform (.invoke rt (.object o) member args) w =
        some (.ok (.string t), w') ∧
      (w'.heap.string t).units = Utf16.encode text ∧ w'.heap.display (.string t) = text

/-- The members of the object of a descriptor answer what the descriptor of the class says. -/
structure Reflects (w : World σ) (rt : RuntimeRef) (c : ClassRef) (d : DescriptorRef) : Prop where
  getName : AnswersText w rt (w.heap.descriptor d).object "getName" (w.heap.descriptor d).name
  getSimpleName : AnswersText w rt (w.heap.descriptor d).object "getSimpleName"
    (simpleName (w.heap.descriptor d).name)
  toString : AnswersText w rt (w.heap.descriptor d).object "toString"
    ("class " ++ (w.heap.descriptor d).name)
  getSuperclass : ∀ n args, args.all w.heap.hasValue = true →
    (Setting.within {} (n + 1)).perform
        (.invoke rt (.object (w.heap.descriptor d).object) "getSuperclass" args) w =
      some (.ok (w.heap.spineValue (w.heap.descriptor d).superclass), w)
  getAnnotations : ∀ n args, args.all w.heap.hasValue = true →
    (Setting.within {} (n + 1)).perform
        (.invoke rt (.object (w.heap.descriptor d).object) "getAnnotations" args) w =
      some (.ok (.object (w.heap.descriptor d).annotations), w)
  isInstance : ∀ n v, w.heap.hasValue v = true → ∃ w',
    (Setting.within {} (n + 1)).perform (.isInstance rt d v) w =
        some (.ok (w.heap.isInstanceOf rt c v), w') ∧
      (Setting.within {} (n + 2)).perform
          (.invoke rt (.object (w.heap.descriptor d).object) "isInstance" [v]) w =
        some (.ok (.boolean (w.heap.isInstanceOf rt c v)), w')
  classless : ∀ v, w.heap.classOf rt v = none → w.heap.isInstanceOf rt c v = false

/-- A member that makes a text of the name of its receiver. -/
theorem answersText_of_settled (settled : w.heap.Settled .sparing)
    (runtime : w.heap.runtimes.isLive rt = true) (there : w.heap.descriptors.isLive d = true)
    (member : String) (b : Builtin) (text : String → String)
    (among : ∀ constructorPrefix, (member, b) ∈ Update.descriptorSurface constructorPrefix)
    (other : member ∉ ["name", "prototype", "annotations", "superclass"])
    (runs : ∀ n this args, (Setting.within {} n).runBuiltin b rt this args =
      (Setting.descriptorName member this : Action σ String) >>= fun name =>
        Action.text (text name)) :
    AnswersText w rt (w.heap.descriptor d).object member (text (w.heap.descriptor d).name) := by
  intro n args live
  have filled := (settled.reached.pristine Watch.sparing_spares).filled d there
  obtain ⟨t, w', made, shown⟩ := text_apply (w := w) (text (w.heap.descriptor d).name)
  refine ⟨t, w', ?_, shown⟩
  rw [perform_member settled runtime there member b among other live, runs]
  exact (Action.bind_of_ok (descriptorName_apply filled member)).trans made

theorem reflects_of_settled (settled : w.heap.Settled .sparing)
    (runtime : w.heap.runtimes.isLive rt = true) (described : (w.heap.klass c).descriptor = some d) :
    Reflects w rt c d := by
  have there := settled.reached.closed.descriptor_live described
  have text := answersText_of_settled settled runtime there
  have member := perform_member settled runtime there
  obtain ⟨name, _, _, properties⟩ := (settled.reached.pristine Watch.sparing_spares).filled d there
  refine ⟨?_, ?_, ?_, ?_, ?_, ?_, ?_⟩
  · exact text "getName" .descriptorGetName id (by simp [Update.descriptorSurface]) (by decide)
      fun _ _ _ => rfl
  · exact text "getSimpleName" .descriptorGetSimpleName simpleName
      (by simp [Update.descriptorSurface]) (by decide) fun _ _ _ => rfl
  · exact text "toString" .descriptorToString ("class " ++ ·) (by simp [Update.descriptorSurface])
      (by decide) fun _ _ _ => rfl
  · intro n args live
    have slot := Heap.get_slot properties (List.mem_cons_of_mem _ (List.mem_cons_of_mem _
      (List.mem_cons_of_mem _ List.mem_cons_self)))
    exact (member "getSuperclass" .descriptorGetSuperclass (by simp [Update.descriptorSurface])
      (by decide) live n).trans (descriptorSlot_apply slot "getSuperclass")
  · intro n args live
    have slot := Heap.get_slot properties (List.mem_cons_of_mem _ (List.mem_cons_of_mem _
      List.mem_cons_self))
    exact (member "getAnnotations" .descriptorGetAnnotations (by simp [Update.descriptorSurface])
      (by decide) live n).trans (descriptorSlot_apply slot "getAnnotations")
  · intro n v live
    obtain ⟨w', typed, called⟩ := isInstance_answers settled runtime described v n
    have args : [v].all w.heap.hasValue = true := by simpa using live
    refine ⟨w', ?_, ?_⟩
    · refine (if_pos ?_).trans typed
      rw [Request.isLive, runtime, there, live]
      rfl
    · exact (member "isInstance" .descriptorIsInstance (by simp [Update.descriptorSurface])
        (by decide) args (n + 1)).trans called
  · intro v belongs
    rw [settled.reached.linked.isInstanceOf settled.reached.closed
      (Heap.isLive_of_descriptor described), belongs]
    rfl

end Members

/-- As long as programs spare descriptor objects and the prototypes of metadata classes, the members
of descriptor objects agree with the descriptors at every moment of a run: for each class that is
described, and for each class right after its descriptor was asked for. -/
theorem members_agree {σ : Type} {watch : Watch} (spares : watch.SparesDescriptors) (depth : Nat)
    (p : Program σ) (state : σ) (count : Nat) :
    ∀ m ∈ p.moments watch depth state count,
      (∀ c d rt, (m.heap.klass c).descriptor = some d → m.heap.runtimes.isLive rt = true →
        Reflects m.toWorld rt c d) ∧
      ∀ n rt c, m.heap.runtimes.isLive rt = true → m.heap.classes.isLive c = true →
        ∃ d w, (Setting.within {} (n + 1)).perform (.descriptorOf rt c) m.toWorld =
            some (.ok d, w) ∧ (w.heap.klass c).descriptor = some d ∧
          ∀ rt', m.heap.runtimes.isLive rt' = true → Reflects w rt' c d := by
  intro m member
  have settled := (Program.sound_of_mem_moments member).toSettled.mono spares.le_sparing
  refine ⟨fun c d rt described runtime => reflects_of_settled settled runtime described, ?_⟩
  intro n rt c runtime live
  obtain ⟨d, w, run, outcome⟩ := perform_descriptorOf_succeeds (w := m.toWorld)
    Watch.sparing_permits Watch.sparing_spares.metadata settled runtime live n
  exact ⟨d, w, run, outcome.descriptor, fun rt' runtime' => reflects_of_settled outcome.settled
    (outcome.extended.runtimes.isLive runtime') outcome.descriptor⟩

/-- Defines a class and a subclass, makes an instance of the subclass and asks for the descriptor of
the class. -/
def instancing : Program Unit := Script.toProgram do
  let rt ← Script.ask (.newRuntime {})
  let item ← Script.ask (.defineClass rt { name := "shop.Item" })
  let _ ← Script.ask (.defineClass rt { name := "shop.Book", superclass := "shop.Item" })
  let _ ← Script.ask (.newObject (some ⟨11⟩) [])
  let _ ← Script.ask (.descriptorOf rt item)
  return .klass item

theorem instancing_reflects :
    Watch.sparing.SparesDescriptors ∧
      ∃ m ∈ instancing.moments .sparing 2 () 20,
        m.heap.runtimes.isLive ⟨0⟩ = true ∧ m.heap.classes.isLive ⟨3⟩ = true ∧
        (m.heap.klass ⟨2⟩).descriptor = some ⟨1⟩ ∧
        m.heap.isInstanceOf ⟨0⟩ ⟨2⟩ (.object ⟨14⟩) = true ∧
        m.heap.isInstanceOf ⟨0⟩ ⟨2⟩ (.klass ⟨2⟩) = false ∧
        simpleName (m.heap.descriptor ⟨1⟩).name = "Item" ∧ Reflects m.toWorld ⟨0⟩ ⟨2⟩ ⟨1⟩ ∧
        ∃ d w, (Setting.within {} 1).perform (.descriptorOf ⟨0⟩ ⟨3⟩) m.toWorld = some (.ok d, w) ∧
          Reflects w ⟨0⟩ ⟨3⟩ d := by
  have ends : (instancing.moments .sparing 2 () 20).any (fun m =>
      m.heap.runtimes.isLive ⟨0⟩ && m.heap.classes.isLive ⟨3⟩ &&
      decide ((m.heap.klass ⟨2⟩).descriptor = some ⟨1⟩) &&
      m.heap.isInstanceOf ⟨0⟩ ⟨2⟩ (.object ⟨14⟩) && !m.heap.isInstanceOf ⟨0⟩ ⟨2⟩ (.klass ⟨2⟩) &&
      decide (simpleName (m.heap.descriptor ⟨1⟩).name = "Item")) = true := by
    decide +kernel
  obtain ⟨m, member, facts⟩ := List.any_eq_true.1 ends
  simp only [Bool.and_eq_true, Bool.not_eq_true', decide_eq_true_iff] at facts
  obtain ⟨⟨⟨⟨⟨runtime, live⟩, described⟩, made⟩, other⟩, simple⟩ := facts
  obtain ⟨known, asked⟩ := members_agree Watch.sparing_spares 2 instancing () 20 m member
  obtain ⟨d, w, run, _, reflects⟩ := asked 0 ⟨0⟩ ⟨3⟩ runtime live
  exact ⟨Watch.sparing_spares, m, member, runtime, live, described, made, other, simple,
    known ⟨2⟩ ⟨1⟩ ⟨0⟩ described runtime, d, w, run, reflects ⟨0⟩ runtime⟩

end ProtoClass
