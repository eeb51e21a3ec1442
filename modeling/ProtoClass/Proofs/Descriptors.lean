import ProtoClass.Proofs.Calls
import ProtoClass.Run.Builtin

set_option autoImplicit false

namespace ProtoClass

section Constructor

variable {σ : Type} {s : Setting σ} {w w' : World σ}

theorem Setting.set_apply {o : ObjectRef} {name : String} {value : Value} {r : Except Error Bool}
    (run : s.set o name value w = some (r, w')) :
    (∃ done, r = .ok done) ∧
      w' = { w with heap := w.heap.mapProperties o fun t => (t.set name value).2 } := by
  unfold set write at run
  split at run
  · cases run
  · cases run
    refine ⟨⟨_, rfl⟩, ?_⟩
    rw [Update.set, Update.changeProperties_heap]

theorem Setting.set_bind_apply {α : Type} {o : ObjectRef} {name : String} {value : Value}
    {rest : Bool → Action σ α} {r : Except Error α}
    (run : (s.set o name value >>= rest) w = some (r, w')) :
    ∃ done, rest done
      { w with heap := w.heap.mapProperties o fun t => (t.set name value).2 } = some (r, w') := by
  rcases Action.bind_inv run with ⟨e, failed, rfl⟩ | ⟨done, w₁, start, finish⟩
  · obtain ⟨⟨done, wrong⟩, _⟩ := Setting.set_apply failed
    cases wrong
  · obtain ⟨_, rfl⟩ := Setting.set_apply start
    exact ⟨done, finish⟩

/-- The built-in constructor writes the four properties of a descriptor object, and no more. -/
theorem descriptorNew_heap {o : ObjectRef} {a b c d : Value} {r : Except Error Value}
    (run : s.descriptorNew (.object o) [a, b, c, d] w = some (r, w')) :
    w'.heap = w.heap.mapProperties o fun t =>
      t.setAll [("name", a), ("prototype", b), ("annotations", c), ("superclass", d)] := by
  unfold Setting.descriptorNew at run
  rw [Action.bind_of_ok rfl] at run
  obtain ⟨_, run⟩ := Setting.set_bind_apply run
  obtain ⟨_, run⟩ := Setting.set_bind_apply run
  obtain ⟨_, run⟩ := Setting.set_bind_apply run
  obtain ⟨_, run⟩ := Setting.set_bind_apply run
  cases run
  simp only [Heap.mapProperties_mapProperties]
  rfl

end Constructor

namespace Action

variable {σ α : Type} {watch : Watch} {J : World σ → Prop} {w : World σ} {A B : α → Heap → Prop}

theorem Keeps.and {x : Action σ α} (kept : x.Keeps watch J w A)
    (more : ∀ a w', x w = some (.ok a, w') → B a w'.heap) :
    x.Keeps watch J w fun a h => A a h ∧ B a h := by
  intro r w' run
  have outcome := kept r w' run
  refine ⟨outcome.holds, outcome.leads, ?_⟩
  rintro a rfl
  exact ⟨outcome.answer a rfl, more a w' run⟩

end Action

namespace Setting.Lawful

variable {σ : Type} {J : World σ → Prop} {s : Setting σ} {w : World σ} {rt : RuntimeRef}
  (lawful : s.Lawful J) (holds : J w)
include lawful holds

open ProtoClass.Action

/-- Under a sparing watch a descriptor object is filled by the built-in constructor. -/
theorem construct_filled (spares : s.watch.SparesDescriptors) {m : ClassRef}
    (set : (w.heap.runtime rt).metadataClass = some m) {a b c d : Value} {o : ObjectRef}
    {w' : World σ} (run : s.construct rt m [a, b, c, d, .integer 0] w = some (.ok o, w')) :
    (w'.heap.object o).properties.toList =
      [⟨"name", a, .plain⟩, ⟨"prototype", b, .plain⟩, ⟨"annotations", c, .plain⟩,
        ⟨"superclass", d, .plain⟩] := by
  have live := Heap.isLive_of_metadataClass set
  have furnished := ((lawful.stable.reached holds).pristine spares).furnished rt m live set
  obtain ⟨f, function, own, code⟩ := furnished _ List.mem_cons_self
  have variant : w.heap.variant rt (.integer 0) =
      (w.heap.runtime rt).options.constructorPrefix ++ "0" := rfl
  rw [Setting.construct_apply rfl (variant ▸ Heap.get_of_getOwn own)] at run
  rcases bind_inv run with ⟨e, _, wrong⟩ | ⟨v, w₂, called, finish⟩
  · cases wrong
  · cases finish
    obtain ⟨inner, _, ran⟩ := lawful.builtin (by exact code) called
    have filled := descriptorNew_heap ran
    have distinct : (["name", "prototype", "annotations", "superclass"] : List String).Nodup := by
      decide
    rw [filled, Heap.mapProperties, Heap.object, Update.newObject, Arena.modify_add_fresh,
      Arena.get_add_fresh]
    exact PropertyTable.toList_ofEntries_of_nodup distinct

omit lawful in
theorem metadataClass :
    (Action.metadataClass rt : Action σ ClassRef).Keeps s.watch J w fun m h =>
      h = w.heap ∧ (w.heap.runtime rt).metadataClass = some m := by
  refine keeps_heap ?_
  dsimp only
  split
  · next m set => exact keeps_pure holds ⟨rfl, set⟩
  · exact keeps_fail holds _

theorem makeDescriptor {c : ClassRef} {superclass : Option DescriptorRef}
    (runtime : w.heap.runtimes.isLive rt = true) (live : w.heap.classes.isLive c = true)
    (parent : w.heap.SuperclassDescriptor c superclass) :
    (s.makeDescriptor rt c superclass).Keeps s.watch J w fun d h =>
      (h.klass c).descriptor = some d := by
  refine keeps_bind (metadataClass holds) ?_
  rintro m w₁ holds₁ _ ⟨same, set⟩
  rw [← same] at runtime live parent set
  have closed₁ := lawful.stable.closed holds₁
  have klass := closed₁.klass live
  refine keeps_heap ?_
  have named : Leads s.watch w₁.heap (Update.newText (w₁.heap.klass c).name w₁.heap).2 :=
    .of_event (e := .string _) trivial trivial
  refine keeps_bind (A := fun name h => h.strings.isLive name = true ∧
    (h.string name).units = Utf16.encode (w₁.heap.klass c).name)
    (keeps_update lawful.stable holds₁ named ?_) ?_
  · simp [Update.newText, Update.newString, Heap.string]
  rintro name w₂ holds₂ leads₂ ⟨string, units⟩
  have extended₂ := leads₂.extended
  refine keeps_heap ?_
  have old : ∀ e, superclass = some e → w₁.heap.descriptors.isLive e = true := by
    rintro e rfl
    obtain ⟨p, _, described⟩ := parent
    exact closed₁.descriptor_live described
  have there := (lawful.stable.closed holds₂).spineValue_live
    fun e link => extended₂.descriptors.isLive (old e link)
  dsimp only
  have args : [.string name, .object (w₁.heap.klass c).prototype,
      .object (w₁.heap.klass c).annotations, w₂.heap.spineValue superclass,
      .integer 0].all w₂.heap.hasValue = true := by
    simp only [List.all_cons, List.all_nil, Bool.and_eq_true]
    exact ⟨string, extended₂.objects.isLive klass.prototype,
      extended₂.objects.isLive klass.annotations, there, rfl, trivial⟩
  have runtime₂ := extended₂.runtimes.isLive runtime
  have set₂ := (extended₂.runtime runtime).metadataClass m set
  have metadata := (lawful.stable.closed holds₂).runtime runtime₂ |>.metadataClass m set₂
  refine keeps_bind_whole ((lawful.construct holds₂ runtime₂ metadata args).and
    (B := fun o h => s.watch.SparesDescriptors → (h.object o).properties.toList =
      [⟨"name", .string name, .plain⟩, ⟨"prototype", .object (w₁.heap.klass c).prototype, .plain⟩,
        ⟨"annotations", .object (w₁.heap.klass c).annotations, .plain⟩,
        ⟨"superclass", w₂.heap.spineValue superclass, .plain⟩])
    fun o w' run spares => lawful.construct_filled holds₂ spares set₂ run) ?_
  rintro o w₃ holds₃ leads₃ ⟨⟨new, object, prototype, unbound, unused⟩, filled⟩ r w₄ finish
  have extended₃ := leads₃.extended
  have extended := extended₂.trans extended₃
  have kept := extended.klass live
  rw [bind_of_ok rfl] at finish
  cases described : (w₃.heap.klass c).descriptor with
  | some d =>
    rw [described] at finish
    cases finish
    refine ⟨holds₃, leads₃, ?_⟩
    rintro d ⟨⟩
    exact described
  | none =>
    rw [described] at finish
    cases finish
    have there₃ := extended.classes.isLive live
    have describes : Describes s.watch w₃.heap c
        { object := o, name := (w₁.heap.klass c).name, prototype := (w₁.heap.klass c).prototype,
          annotations := (w₁.heap.klass c).annotations, superclass } := by
      refine ⟨there₃, described, kept.name.symm, kept.prototype.symm, kept.annotations.symm, ?_,
        object, unused, ⟨_, ⟨rt, m, extended₃.runtimes.isLive runtime₂, ?_, ?_⟩, prototype⟩, ?_⟩
      · exact extended.superclassDescriptor live parent fun s link => (closed₁.superclass_older link).2
      · exact (extended₃.runtime runtime₂).metadataClass m set₂
      · exact (extended₃.klass metadata).prototype
      · intro spares
        refine ⟨name, extended₃.strings.isLive string, ?_, ?_⟩
        · rw [(extended₃.string string).units, units]
        · rw [filled spares, Heap.slotProperties, extended₃.spineValue]
          exact fun e link => extended₂.descriptors.isLive (old e link)
    have recorded := Passes.record describes ⟨object, unbound⟩
    refine ⟨lawful.stable.later holds₃ recorded, leads₃.record recorded new, ?_⟩
    rintro d ⟨⟩
    exact Update.recordDescriptor_descriptor there₃ _

theorem describeAlong {c : ClassRef} {others : List ClassRef}
    (runtime : w.heap.runtimes.isLive rt = true) (live : w.heap.classes.isLive c = true)
    (above : w.heap.ancestry c = c :: others) :
    (s.describeAlong rt c others).Keeps s.watch J w fun d h => (h.klass c).descriptor = some d := by
  have closed := lawful.stable.closed holds
  induction others generalizing c with
  | nil =>
    refine keeps_heap ?_
    cases described : (w.heap.klass c).descriptor with
    | some d => exact keeps_pure holds described
    | none => exact lawful.makeDescriptor holds runtime live (closed.ancestry_singleton above)
  | cons superclass rest ih =>
    refine keeps_heap ?_
    cases described : (w.heap.klass c).descriptor with
    | some d => exact keeps_pure holds described
    | none =>
      obtain ⟨link, above'⟩ := closed.ancestry_cons above
      refine keeps_bind (ih (closed.superclass_older link).2 above') ?_
      intro e w' holds' leads parent
      have extended := leads.extended
      refine lawful.makeDescriptor holds' (extended.runtimes.isLive runtime)
        (extended.classes.isLive live) ⟨superclass, ?_, parent⟩
      exact (extended.klass live).superclass.trans link

theorem descriptorOf {c : ClassRef} (runtime : w.heap.runtimes.isLive rt = true)
    (live : w.heap.classes.isLive c = true) :
    (s.descriptorOf rt c).Keeps s.watch J w fun d h => (h.klass c).descriptor = some d := by
  refine keeps_heap (lawful.describeAlong holds runtime live ?_)
  rw [Heap.ancestry]
  rfl

theorem descriptorNamed {name : String} (runtime : w.heap.runtimes.isLive rt = true) :
    (s.descriptorNamed rt name).Keeps s.watch J w fun answer h => ∀ d, answer = some d →
      ∃ c, w.heap.classNamed rt name = some c ∧ (h.klass c).descriptor = some d := by
  refine keeps_heap ?_
  cases registered : w.heap.classNamed rt name with
  | none => exact keeps_pure holds nofun
  | some c =>
    have live := (lawful.stable.closed holds).classNamed_live runtime registered
    refine keeps_bind (lawful.descriptorOf holds runtime live) fun d w' holds' _ described => ?_
    refine keeps_pure holds' ?_
    rintro d ⟨⟩
    exact ⟨c, rfl, described⟩

end Setting.Lawful

/-- The class of a value: the nearest one on the chain of an object, and the metadata class for
every class. -/
def Heap.classOf (h : Heap) (rt : RuntimeRef) : Value → Option ClassRef
  | .object o => h.owningClass o
  | .klass _ => (h.runtime rt).metadataClass
  | _ => none

namespace Setting.Lawful

variable {σ : Type} {J : World σ → Prop} {s : Setting σ} {w : World σ} {rt : RuntimeRef}
  (lawful : s.Lawful J) (holds : J w)
include lawful holds

open ProtoClass.Action

theorem getClass {v : Value} (runtime : w.heap.runtimes.isLive rt = true) :
    (s.getClass rt v).Keeps s.watch J w fun d h =>
      ∃ c, w.heap.classOf rt v = some c ∧ (h.klass c).descriptor = some d := by
  have closed := lawful.stable.closed holds
  cases v with
  | object o =>
    refine keeps_heap ?_
    cases owned : w.heap.owningClass o with
    | none => exact keeps_fail holds _
    | some c =>
      exact (lawful.descriptorOf holds runtime (closed.owningClass_live owned)).weaken
        fun d h _ described => ⟨c, owned, described⟩
  | klass c =>
    refine keeps_bind (metadataClass holds) ?_
    rintro m w' holds' _ ⟨same, set⟩
    rw [← same] at runtime set
    have live := ((lawful.stable.closed holds').runtime runtime).metadataClass m set
    refine (lawful.descriptorOf holds' runtime live).weaken fun d h _ described => ?_
    rw [same] at set
    exact ⟨m, set, described⟩
  | _ => exact keeps_fail holds _

theorem isInstance {d : DescriptorRef} {v : Value} (runtime : w.heap.runtimes.isLive rt = true) :
    (s.isInstance rt d v).Keeps s.watch J w anyAnswer := by
  refine keeps_bind (keeps_attempt (lawful.getClass holds runtime)) ?_
  intro outcome w' holds' _ _
  split
  · exact keeps_heap (keeps_pure holds' trivial)
  · exact keeps_pure holds' trivial
  · exact keeps_fail holds' _

end Setting.Lawful

end ProtoClass
