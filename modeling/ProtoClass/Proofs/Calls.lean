import ProtoClass.Proofs.FlatForm
import ProtoClass.Proofs.Law

set_option autoImplicit false

namespace ProtoClass

namespace Heap

/-- A class was defined by the runtime to whose root prototype its statics delegate. -/
def DefinedBy (h : Heap) (c : ClassRef) (rt : RuntimeRef) : Prop :=
  (h.object (h.klass c).statics).prototype = some (h.rootPrototype rt)

theorem DefinedBy.later {h h' : Heap} {c : ClassRef} {rt : RuntimeRef} (defined : h.DefinedBy c rt)
    (extended : h.Extends h') (closed : h.Closed) (live : h.classes.isLive c = true)
    (runtime : h.runtimes.isLive rt = true) : h'.DefinedBy c rt := by
  have statics := (closed.klass live).statics
  unfold DefinedBy
  rw [(extended.klass live).statics, (extended.object statics).prototype,
    extended.rootPrototype closed runtime]
  exact defined

end Heap

namespace Heap

variable {h : Heap}

theorem hasEntries_put {entries : List (String × Value)} {name : String} {v : Value}
    (live : h.hasEntries entries = true) (there : h.hasValue v = true) :
    h.hasEntries (Named.put name v entries) = true := by
  rw [hasEntries_iff] at live ⊢
  intro entry member
  rcases Named.mem_of_mem_put member with old | same
  · exact live entry old
  · rw [same, there]

theorem hasEntries_putAll {entries l : List (String × Value)} (there : h.hasEntries l = true)
    (live : h.hasEntries entries = true) : h.hasEntries (Named.putAll entries l) = true := by
  induction entries generalizing l with
  | nil => exact there
  | cons entry rest ih =>
    obtain ⟨first, others⟩ := List.forall_mem_cons.1 (hasEntries_iff.1 live)
    exact ih (hasEntries_put there first) (hasEntries_iff.2 others)

/-- A definition that is read from live entries is live. -/
theorem hasDefinition_parse {name superclass : String} {entries : List (String × Value)}
    {annotations : Option (List (String × Value))} {marker : Char} {d : Definition}
    (live : h.hasEntries entries = true) (noted : h.hasEntries (annotations.getD []) = true)
    (parsed : Definition.parse name superclass entries annotations marker = .ok d) :
    h.hasDefinition d = true := by
  have given := hasEntries_iff.1 live
  have members : h.hasEntries (Definition.memberEntries marker entries) = true :=
    hasEntries_iff.2 fun entry member => given entry (List.mem_of_mem_filter member)
  have statics : h.hasEntries ((Definition.staticEntries marker entries).filter
      fun entry => entry.1 ≠ "") = true := by
    apply hasEntries_iff.2
    intro entry member
    obtain ⟨origin, among, read⟩ := List.mem_filterMap.1 (List.mem_of_mem_filter member)
    obtain ⟨key, _, rfl⟩ := Option.map_eq_some_iff.1 read
    exact given origin among
  rw [Definition.eq_unflatten_of_parse parsed]
  refine hasDefinition_iff.2 ⟨hasEntries_putAll rfl members, hasEntries_putAll rfl statics, ?_, noted⟩
  intro f set
  exact given _ (Definition.mem_of_initializer set)

end Heap

section Equations

variable {σ : Type} {s : Setting σ} {w : World σ} {rt : RuntimeRef}

theorem call_builtin {watch : Watch} {n : Nat} {f : FunctionRef} {b : Builtin}
    (code : (w.heap.function f).code = .builtin b) (rt : RuntimeRef) (this : Value)
    (args : List Value) :
    (Setting.within watch (n + 1)).call f rt this args w =
      (Setting.within watch n).runBuiltin b rt this args w := by
  simp only [Setting.within, callWithin, code]

/-- The member that a receiver sees is called with the receiver itself. -/
theorem Setting.invoke_apply {receiver : Value} {name : String} {f : FunctionRef}
    (found : w.heap.lookup rt receiver name = some (.function f)) (args : List Value) :
    s.invoke rt receiver name args w = s.call f rt receiver args w := by
  unfold Setting.invoke
  rw [Action.heap_bind_apply, found]

/-- The variant that the last argument selects is called on a new object. -/
theorem Setting.construct_apply {c : ClassRef} {args : List Value} {selector : Value}
    {f : FunctionRef} (last : args.getLast? = some selector)
    (found : w.heap.get (w.heap.klass c).prototype (w.heap.variant rt selector) = some (.function f)) :
    s.construct rt c args w =
      (s.call f rt (.object w.heap.objects.fresh) args.dropLast >>= fun _ =>
          (pure w.heap.objects.fresh : Action σ ObjectRef))
        { w with heap := (Update.newObject (some (w.heap.klass c).prototype) w.heap).2 } := by
  unfold Setting.construct
  rw [Action.heap_bind_apply, last]
  dsimp only
  rw [found]
  exact Action.bind_of_ok rfl

end Equations

namespace Setting.Lawful

variable {σ : Type} {J : World σ → Prop} {s : Setting σ} {w : World σ} {rt : RuntimeRef}
  (lawful : s.Lawful J) (holds : J w)
include lawful holds

open ProtoClass.Action

theorem set {o : ObjectRef} {name : String} {value : Value} (live : w.heap.objects.isLive o = true)
    (there : w.heap.hasValue value = true) :
    (s.set o name value).Keeps s.watch J w anyAnswer :=
  keeps_write lawful.stable holds fun permitted =>
    .of_event (e := .set o name value) ⟨live, there, permitted⟩ trivial

theorem define {o : ObjectRef} {name : String} {value : Value} {flags : Flags}
    (live : w.heap.objects.isLive o = true) (there : w.heap.hasValue value = true) :
    (s.define o name value flags).Keeps s.watch J w anyAnswer :=
  keeps_write lawful.stable holds fun permitted =>
    .of_event (e := .define o name value flags) ⟨live, there, permitted⟩ trivial

theorem delete {o : ObjectRef} {name : String} (live : w.heap.objects.isLive o = true) :
    (s.delete o name).Keeps s.watch J w anyAnswer :=
  keeps_write lawful.stable holds fun permitted =>
    .of_event (e := .delete o name) ⟨live, permitted⟩ trivial

theorem install {o : ObjectRef} {properties : List (String × Value)}
    (live : w.heap.objects.isLive o = true) (there : w.heap.hasEntries properties = true) :
    (s.install o properties).Keeps s.watch J w anyAnswer :=
  keeps_write lawful.stable holds fun permitted =>
    .of_event (e := .install o properties)
      ⟨live, there, fun wrote => permitted (bne_iff_ne.2 wrote)⟩ trivial

theorem invoke {receiver : Value} {name : String} {args : List Value}
    (runtime : w.heap.runtimes.isLive rt = true) (there : w.heap.hasValue receiver = true)
    (live : args.all w.heap.hasValue = true) :
    (s.invoke rt receiver name args).Keeps s.watch J w liveAnswer := by
  refine keeps_heap ?_
  cases found : w.heap.lookup rt receiver name with
  | none => exact keeps_fail holds _
  | some member =>
    cases member with
    | function f =>
      have function := (lawful.stable.closed holds).get_live found
      exact lawful.call holds function runtime there live
    | _ => exact keeps_fail holds _

theorem hashCode {receiver : Value} (runtime : w.heap.runtimes.isLive rt = true)
    (there : w.heap.hasValue receiver = true) :
    (s.hashCode rt receiver).Keeps s.watch J w anyAnswer := by
  refine keeps_bind (lawful.invoke holds runtime there rfl) fun answer w' holds' _ _ => ?_
  cases answer with
  | integer i => exact keeps_pure holds' trivial
  | _ => exact keeps_fail holds' _

theorem equals {receiver other : Value} (runtime : w.heap.runtimes.isLive rt = true)
    (there : w.heap.hasValue receiver = true) (live : w.heap.hasValue other = true) :
    (s.equals rt receiver other).Keeps s.watch J w anyAnswer := by
  have args : [other].all w.heap.hasValue = true := by simpa using live
  refine keeps_bind (lawful.invoke holds runtime there args) fun answer w' holds' _ _ => ?_
  exact keeps_heap (keeps_pure holds' trivial)

theorem display {receiver : Value} (runtime : w.heap.runtimes.isLive rt = true)
    (there : w.heap.hasValue receiver = true) :
    (s.display rt receiver).Keeps s.watch J w anyAnswer := by
  refine keeps_bind (lawful.invoke holds runtime there rfl) fun answer w' holds' _ _ => ?_
  exact keeps_heap (keeps_pure holds' trivial)

/-- An instance is a new object that delegates to the prototype of its class, and no descriptor has
come to stand on it while it was being constructed. -/
theorem construct {c : ClassRef} {args : List Value} (runtime : w.heap.runtimes.isLive rt = true)
    (live : w.heap.classes.isLive c = true) (there : args.all w.heap.hasValue = true) :
    (s.construct rt c args).Keeps s.watch J w fun o h =>
      ¬ w.heap.objects.isLive o = true ∧ h.objects.isLive o = true ∧
        (h.object o).prototype = some (w.heap.klass c).prototype ∧
        (h.object o).boundClass = none ∧ ¬ h.IsDescriptorObject o := by
  have closed := lawful.stable.closed holds
  refine keeps_heap ?_
  cases args.getLast? with
  | none => exact keeps_fail holds _
  | some selector =>
    dsimp only
    split
    · next f found =>
      have prototype := (closed.klass live).prototype
      have allowed : Event.Allowed s.watch w.heap (.object (some (w.heap.klass c).prototype) []) :=
        ⟨by rintro p ⟨⟩; exact prototype, rfl⟩
      have made : Leads s.watch w.heap (Update.newObject (some (w.heap.klass c).prototype) w.heap).2 :=
        .of_event allowed trivial
      refine keeps_bind (A := fun o h => o = w.heap.objects.fresh ∧
        h = (Update.newObject (some (w.heap.klass c).prototype) w.heap).2)
        (keeps_update lawful.stable holds made ⟨rfl, rfl⟩) ?_
      rintro o w₁ holds₁ leads₁ ⟨rfl, same⟩
      have new : w₁.heap.objects.isLive w.heap.objects.fresh = true := by
        simp [same, Update.newObject]
      have cell : w₁.heap.object w.heap.objects.fresh =
          { prototype := some (w.heap.klass c).prototype } := by
        simp [same, Update.newObject, Heap.object]
      have extended := leads₁.extended
      refine keeps_bind (lawful.call holds₁ (extended.functions.isLive (closed.get_live found))
        (extended.runtimes.isLive runtime) new ?_) fun _ w₂ holds₂ leads₂ _ => keeps_pure holds₂ ?_
      · have values := extended.hasValues there
        rw [List.all_eq_true] at values ⊢
        exact fun v member => values v (List.dropLast_subset _ member)
      · refine ⟨by simp, leads₂.extended.objects.isLive new, ?_, ?_, ?_⟩
        · rw [(leads₂.extended.object new).prototype, cell]
        · rw [(leads₂.extended.object new).boundClass, cell]
        · rintro ⟨d, there, stands⟩
          -- an old descriptor has an old object, and one made by the call has one made by the call
          by_cases old : w₁.heap.descriptors.isLive d = true
          · rw [leads₂.extended.descriptor old] at stands
            rw [same] at old stands
            have older := (closed.descriptor old).object
            exact Arena.fresh_ne_of_isLive older stands
          · exact leads₂.fresh d there old (stands ▸ new)
    · exact keeps_fail holds _

theorem constructNamed {name : String} {args : List Value}
    (runtime : w.heap.runtimes.isLive rt = true) (there : args.all w.heap.hasValue = true) :
    (s.constructNamed rt name args).Keeps s.watch J w anyAnswer := by
  refine keeps_heap ?_
  cases registered : w.heap.classNamed rt name with
  | none => exact keeps_fail holds _
  | some c =>
    have live := (lawful.stable.closed holds).classNamed_live runtime registered
    exact (lawful.construct holds runtime live there).weaken fun _ _ _ _ => trivial

theorem defineClass {d : Definition} (runtime : w.heap.runtimes.isLive rt = true)
    (there : w.heap.hasDefinition d = true) :
    (s.defineClass rt d).Keeps s.watch J w fun c h =>
      h.classes.isLive c = true ∧ h.DefinedBy c rt := by
  refine keeps_heap ?_
  refine keeps_bind (A := fun superclass h => h = w.heap ∧
    (h.registryOf rt).resolve d.name d.superclass (h.runtime rt).root = .ok superclass)
    (keeps_ofExcept holds fun _ resolved => ⟨rfl, resolved⟩) ?_
  rintro superclass w₁ holds₁ _ ⟨same, resolved⟩
  have allowed : Event.Allowed s.watch w₁.heap (.klass rt d superclass) := by
    refine ⟨?_, ?_, resolved⟩
    · rw [same]
      exact runtime
    · rw [same]
      exact there
  have closed := lawful.stable.closed holds₁
  have built := Event.extends allowed
  have cell := Update.buildClass_class rt d superclass w₁.heap
  refine keeps_bind (A := fun c h => h.classes.isLive c = true ∧ h.DefinedBy c rt)
    (keeps_update lawful.stable holds₁ (.of_event allowed trivial) ?_) ?_
  · rw [Update.buildClass_fst]
    refine ⟨?_, ?_⟩
    · simp [Update.buildClass_apply]
    · rw [Heap.DefinedBy, cell, Update.buildClass_statics]
      exact congrArg some (built.rootPrototype closed allowed.1).symm
  · rintro c w₂ holds₂ leads₂ ⟨live, defined⟩
    have extended := leads₂.extended
    have runtime₂ := extended.runtimes.isLive allowed.1
    cases initializer : d.initializer with
    | none => exact keeps_pure holds₂ ⟨live, defined⟩
    | some f =>
      have function := extended.functions.isLive
        ((Heap.hasDefinition_iff.1 allowed.2.1).2.2.1 f initializer)
      refine keeps_bind (lawful.call holds₂ function runtime₂ live rfl) ?_
      intro _ w₃ holds₃ leads₃ _
      exact keeps_pure holds₃ ⟨leads₃.extended.classes.isLive live,
        defined.later leads₃.extended (lawful.stable.closed holds₂) live runtime₂⟩

theorem defineFlat {name superclass : String} {entries : List (String × Value)}
    {annotations : Option (List (String × Value))} (runtime : w.heap.runtimes.isLive rt = true)
    (live : w.heap.hasEntries entries = true)
    (noted : w.heap.hasEntries (annotations.getD []) = true) :
    (s.defineFlat rt name superclass entries annotations).Keeps s.watch J w fun c h =>
      h.classes.isLive c = true ∧ h.DefinedBy c rt := by
  refine keeps_heap ?_
  refine keeps_bind (A := fun d h => h.runtimes.isLive rt = true ∧ h.hasDefinition d = true)
    (keeps_ofExcept holds fun _ parsed => ⟨runtime, Heap.hasDefinition_parse live noted parsed⟩) ?_
  exact fun d w' holds' _ there => lawful.defineClass holds' there.1 there.2

theorem installOn {name : String} {properties : List (String × Value)}
    (runtime : w.heap.runtimes.isLive rt = true) (live : w.heap.hasEntries properties = true) :
    (s.installOn rt name properties).Keeps s.watch J w anyAnswer := by
  refine keeps_heap ?_
  cases found : w.heap.hostNamed rt name with
  | none => exact keeps_pure holds trivial
  | some host =>
    have there := ((lawful.stable.closed holds).host_closed runtime found).prototype
    exact keeps_bind (lawful.install holds there live) fun _ _ holds' _ _ => keeps_pure holds' trivial

theorem installStaticOn {name : String} {properties : List (String × Value)}
    (runtime : w.heap.runtimes.isLive rt = true) (live : w.heap.hasEntries properties = true) :
    (s.installStaticOn rt name properties).Keeps s.watch J w anyAnswer := by
  refine keeps_heap ?_
  cases found : w.heap.hostNamed rt name with
  | none => exact keeps_pure holds trivial
  | some host =>
    have there := ((lawful.stable.closed holds).host_closed runtime found).constructor
    exact keeps_bind (lawful.install holds there live) fun _ _ holds' _ _ => keeps_pure holds' trivial

theorem installSocketConnect (runtime : w.heap.runtimes.isLive rt = true) :
    (s.installSocketConnect rt).Keeps s.watch J w anyAnswer := by
  have made : Leads s.watch w.heap
      (Update.newFunction "WebSocket.connect" (.builtin .socketConnect) w.heap).2 :=
    .of_event (e := .function _ _) trivial trivial
  refine keeps_bind (A := fun f h => h.functions.isLive f = true)
    (keeps_update lawful.stable holds made (by simp [Update.newFunction])) ?_
  intro f w' holds' leads live
  refine lawful.installStaticOn holds' (leads.extended.runtimes.isLive runtime) ?_
  exact Heap.hasEntries_iff.2 (List.forall_mem_singleton.2 live)

theorem constructHost {name : String} {args : List Value}
    (runtime : w.heap.runtimes.isLive rt = true) (there : args.all w.heap.hasValue = true) :
    (s.constructHost rt name args).Keeps s.watch J w liveAnswer := by
  refine keeps_heap ?_
  cases found : w.heap.hostNamed rt name with
  | none => exact keeps_fail holds _
  | some host =>
    have hosted := (lawful.stable.closed holds).host_closed runtime found
    dsimp only
    split
    · exact keeps_fail holds _
    · next f made => exact lawful.call holds (hosted.create f made) runtime hosted.constructor there

theorem wire {connection listener : ObjectRef} {slots : List (String × String)}
    (live : w.heap.objects.isLive connection = true) :
    (s.wire connection listener slots).Keeps s.watch J w anyAnswer := by
  induction slots generalizing w with
  | nil => exact keeps_pure holds trivial
  | cons slot rest ih =>
    refine keeps_heap ?_
    cases found : w.heap.get listener slot.1 with
    | none => exact ih holds live
    | some handler =>
      have there := (lawful.stable.closed holds).get_live found
      refine keeps_bind (lawful.set holds live there) fun _ w' holds' leads _ => ?_
      exact ih holds' (leads.extended.objects.isLive live)

theorem socketConnect {args : List Value} (runtime : w.heap.runtimes.isLive rt = true)
    (there : args.all w.heap.hasValue = true) :
    (s.socketConnect rt args).Keeps s.watch J w liveAnswer := by
  have target : [args.head?.getD .undefined].all w.heap.hasValue = true := by
    cases args with
    | nil => rfl
    | cons first _ => simpa using List.all_eq_true.1 there first List.mem_cons_self
  refine keeps_bind (lawful.constructHost holds runtime target) fun connection w' holds' _ live => ?_
  cases connection with
  | object o =>
    dsimp only
    split
    · refine keeps_bind (lawful.wire holds' live) fun _ w'' holds'' leads _ => ?_
      exact keeps_pure holds'' (leads.extended.hasValue live)
    · exact keeps_pure holds' live
  | _ => exact keeps_fail holds' _

end Setting.Lawful

end ProtoClass
