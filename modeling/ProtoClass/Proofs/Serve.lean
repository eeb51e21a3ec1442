import ProtoClass.Proofs.Descriptors
import ProtoClass.Run.Program

set_option autoImplicit false

namespace ProtoClass

open ProtoClass.Action

/-- What is known of the answer to a request, given the heaps before and after. -/
def Request.Meets : (q : Request) → (before after : Heap) → Except Error q.Answer → Prop
  | .identityOf k x, before, after, r => (r, after) = Update.identityOf k x before
  | .defineClass rt _, _, after, r =>
    ∀ c, r = .ok c → after.classes.isLive c = true ∧ after.DefinedBy c rt
  | .defineFlat rt _ _ _ _, _, after, r =>
    ∀ c, r = .ok c → after.classes.isLive c = true ∧ after.DefinedBy c rt
  | .descriptorOf _ c, _, after, r => ∀ d, r = .ok d → (after.klass c).descriptor = some d
  | .descriptorNamed rt name, before, after, r => ∀ d, r = .ok (some d) →
    ∃ c, before.classNamed rt name = some c ∧ (after.klass c).descriptor = some d
  | .getClass rt v, before, after, r => ∀ d, r = .ok d →
    ∃ c, before.classOf rt v = some c ∧ (after.klass c).descriptor = some d
  | _, _, _, _ => True

namespace Setting.Lawful

variable {σ : Type} {J : World σ → Prop} {s : Setting σ} {w : World σ} {rt : RuntimeRef}
  (lawful : s.Lawful J) (holds : J w)
include lawful holds

theorem text (t : String) : (Action.text t).Keeps s.watch J w liveAnswer := by
  refine keeps_bind (A := fun x h => h.strings.isLive x = true)
    (keeps_update lawful.stable holds (.of_event (e := .string _) trivial trivial) ?_) ?_
  · simp [Update.newText, Update.newString]
  · exact fun x w' holds' _ live => keeps_pure holds' live

theorem identityOf {k : CounterRef} {x : Identified} (counter : w.heap.counters.isLive k = true)
    (there : w.heap.hasIdentified x = true) :
    (Action.tryUpdate (Update.identityOf k x)).Keeps s.watch J w anyAnswer :=
  keeps_tryUpdate lawful.stable holds (.of_event (e := .identity k x) ⟨counter, there⟩ trivial)
    fun _ _ => trivial

theorem hashOf {t : StringRef} (there : w.heap.strings.isLive t = true) :
    (Action.update (Update.hashOf t)).Keeps s.watch J w anyAnswer :=
  keeps_update lawful.stable holds (.of_event (e := .hash t) there trivial) trivial

theorem objectHashCode {this : Value} (runtime : w.heap.runtimes.isLive rt = true)
    (there : w.heap.hasValue this = true) :
    (Setting.objectHashCode rt this).Keeps s.watch J w liveAnswer := by
  have counter := ((lawful.stable.closed holds).runtime runtime).counter
  refine keeps_heap ?_
  cases this with
  | object o =>
    exact keeps_bind (lawful.identityOf holds counter there) fun _ _ holds' _ _ =>
      keeps_pure holds' rfl
  | klass c =>
    exact keeps_bind (lawful.identityOf holds counter there) fun _ _ holds' _ _ =>
      keeps_pure holds' rfl
  | function f =>
    exact keeps_bind (lawful.identityOf holds counter there) fun _ _ holds' _ _ =>
      keeps_pure holds' rfl
  | string t =>
    exact keeps_bind (lawful.hashOf holds there) fun _ _ holds' _ _ => keeps_pure holds' rfl
  | integer i => exact keeps_pure holds rfl
  | _ => exact keeps_fail holds _

theorem objectToString {this : Value} (runtime : w.heap.runtimes.isLive rt = true)
    (there : w.heap.hasValue this = true) :
    (s.objectToString rt this).Keeps s.watch J w liveAnswer := by
  cases this with
  | object o =>
    refine keeps_heap ?_
    refine keeps_bind (lawful.invoke holds runtime there rfl) fun _ _ holds' _ _ => ?_
    exact keeps_heap (lawful.text holds' _)
  | _ => exact keeps_heap (lawful.text holds _)

omit lawful in
theorem stringArguments {context : String} {missing : TypeError} {this : Value}
    {args : List Value} :
    (Setting.stringArguments context missing this args).Keeps s.watch J w anyAnswer := by
  refine keeps_bind (A := anyAnswer) (keeps_ofExcept holds fun _ _ => trivial) ?_
  intro t w₁ holds₁ _ _
  split
  · exact keeps_fail holds₁ _
  · refine keeps_bind (A := anyAnswer) (keeps_ofExcept holds₁ fun _ _ => trivial) ?_
    exact fun _ _ holds₂ _ _ => keeps_heap (keeps_pure holds₂ trivial)

omit lawful in
/-- The object that a built-in function wants as receiver is the receiver. -/
theorem expectObject {context : String} {this : Value} (there : w.heap.hasValue this = true) :
    (Action.ofExcept (Heap.expectObject context this)).Keeps s.watch J w fun o h =>
      h.objects.isLive o = true := by
  refine keeps_ofExcept holds fun o expected => ?_
  cases this with
  | object p =>
    cases expected
    exact there
  | _ => cases expected

omit lawful in
theorem descriptorName {member : String} {this : Value} (there : w.heap.hasValue this = true) :
    (Setting.descriptorName member this).Keeps s.watch J w anyAnswer :=
  keeps_bind (expectObject holds there) fun _ _ holds' _ _ => keeps_heap (keeps_pure holds' trivial)

theorem descriptorSlot {member slot : String} {this : Value}
    (there : w.heap.hasValue this = true) :
    (Setting.descriptorSlot member slot this).Keeps s.watch J w liveAnswer := by
  refine keeps_bind (expectObject holds there) fun o w' holds' _ _ => keeps_heap ?_
  refine keeps_pure holds' ?_
  cases found : w'.heap.get o slot with
  | none => rfl
  | some v => exact (lawful.stable.closed holds').get_live found

theorem descriptorNew {this : Value} {args : List Value} (there : w.heap.hasValue this = true)
    (live : args.all w.heap.hasValue = true) :
    (s.descriptorNew this args).Keeps s.watch J w liveAnswer := by
  have argument : ∀ (h : Heap) (i : Nat), args.all h.hasValue = true →
      h.hasValue (args[i]?.getD .null) = true := by
    intro h i live
    cases at_i : args[i]? with
    | none => rfl
    | some v => exact List.all_eq_true.1 live v (List.mem_of_getElem? at_i)
  refine keeps_bind (expectObject holds there) fun o w₀ holds₀ leads₀ live₀ => ?_
  have args₀ := leads₀.extended.hasValues live
  refine keeps_bind (lawful.set holds₀ live₀ (argument _ 0 args₀)) fun _ w₁ holds₁ leads₁ _ => ?_
  have args₁ := leads₁.extended.hasValues args₀
  have live₁ := leads₁.extended.objects.isLive live₀
  refine keeps_bind (lawful.set holds₁ live₁ (argument _ 1 args₁)) fun _ w₂ holds₂ leads₂ _ => ?_
  have args₂ := leads₂.extended.hasValues args₁
  have live₂ := leads₂.extended.objects.isLive live₁
  refine keeps_bind (lawful.set holds₂ live₂ (argument _ 2 args₂)) fun _ w₃ holds₃ leads₃ _ => ?_
  have args₃ := leads₃.extended.hasValues args₂
  have live₃ := leads₃.extended.objects.isLive live₂
  refine keeps_bind (lawful.set holds₃ live₃ (argument _ 3 args₃)) fun _ w₄ holds₄ _ _ => ?_
  exact keeps_pure holds₄ rfl

omit lawful in
theorem descriptorIsAssignableFrom {this : Value} {args : List Value}
    (there : w.heap.hasValue this = true) :
    (Setting.descriptorIsAssignableFrom this args).Keeps s.watch J w liveAnswer := by
  refine keeps_bind (expectObject holds there) fun _ w₁ holds₁ _ _ => ?_
  split
  · refine keeps_heap (keeps_bind (A := anyAnswer) (keeps_ofOption holds₁ fun _ _ => trivial) ?_)
    exact fun _ _ holds₂ _ _ => keeps_pure holds₂ rfl
  · exact keeps_fail holds₁ _
  · exact keeps_pure holds₁ rfl

theorem descriptorIsInstance {this : Value} {args : List Value}
    (runtime : w.heap.runtimes.isLive rt = true) (there : w.heap.hasValue this = true) :
    (s.descriptorIsInstance rt this args).Keeps s.watch J w liveAnswer := by
  refine keeps_bind (expectObject holds there) fun _ w₁ holds₁ leads₁ _ => ?_
  have runtime₁ := leads₁.extended.runtimes.isLive runtime
  refine keeps_bind (keeps_attempt (lawful.getClass holds₁ runtime₁)) fun _ w₂ holds₂ _ _ => ?_
  split
  · refine keeps_heap (keeps_bind (A := anyAnswer) (keeps_ofOption holds₂ fun _ _ => trivial) ?_)
    exact fun _ _ holds₃ _ _ => keeps_pure holds₃ rfl
  · exact keeps_pure holds₂ rfl
  · exact keeps_fail holds₂ _

theorem runBuiltin (b : Builtin) {this : Value} {args : List Value}
    (runtime : w.heap.runtimes.isLive rt = true) (there : w.heap.hasValue this = true)
    (live : args.all w.heap.hasValue = true) :
    (s.runBuiltin b rt this args).Keeps s.watch J w liveAnswer := by
  cases b with
  | objectHashCode => exact lawful.objectHashCode holds runtime there
  | objectEquals => exact keeps_heap (keeps_pure holds rfl)
  | objectToString => exact lawful.objectToString holds runtime there
  | objectGetClass =>
    refine keeps_bind (lawful.getClass holds runtime) fun d w' holds' _ found => keeps_heap ?_
    obtain ⟨c, _, described⟩ := found
    have closed := lawful.stable.closed holds'
    exact keeps_pure holds' (closed.descriptor (closed.descriptor_live described)).object
  | stringHashCode =>
    refine keeps_bind (A := fun t h => h.strings.isLive t = true) (keeps_ofExcept holds ?_) ?_
    · intro t expected
      cases this with
      | string u =>
        cases expected
        exact there
      | _ => cases expected
    · intro t w' holds' _ string
      exact keeps_bind (lawful.hashOf holds' string) fun _ _ holds'' _ _ => keeps_pure holds'' rfl
  | stringStartsWith =>
    exact keeps_bind (stringArguments holds) fun _ _ holds' _ _ => keeps_pure holds' rfl
  | stringEndsWith =>
    exact keeps_bind (stringArguments holds) fun _ _ holds' _ _ => keeps_pure holds' rfl
  | descriptorNew => exact lawful.descriptorNew holds there live
  | descriptorGetName =>
    exact keeps_bind (descriptorName holds there) fun _ _ holds' _ _ => lawful.text holds' _
  | descriptorGetSimpleName =>
    exact keeps_bind (descriptorName holds there) fun _ _ holds' _ _ => lawful.text holds' _
  | descriptorToString =>
    exact keeps_bind (descriptorName holds there) fun _ _ holds' _ _ => lawful.text holds' _
  | descriptorGetSuperclass => exact lawful.descriptorSlot holds there
  | descriptorGetAnnotations => exact lawful.descriptorSlot holds there
  | descriptorIsAssignableFrom => exact descriptorIsAssignableFrom holds there
  | descriptorIsInstance => exact lawful.descriptorIsInstance holds runtime there
  | classToString name => exact lawful.text holds _
  | socketConnect => exact lawful.socketConnect holds runtime live

theorem serve {q : Request} (live : q.isLive w.heap = true) (asked : s.watch.mayAsk w.heap q = true) :
    (s.serve q).Keeps s.watch J w anyAnswer := by
  have update : ∀ {α : Type} {u : Update α} {e : Event}, e.Allowed s.watch w.heap →
      e.Ordinary → (u w.heap).2 = e.apply w.heap →
        (Action.update u).Keeps s.watch J w anyAnswer := by
    intro α u e allowed ordinary effect
    refine keeps_update lawful.stable holds ?_ trivial
    rw [effect]
    exact .of_event allowed ordinary
  cases q <;> simp only [Request.isLive, Bool.and_eq_true, Option.all_eq_true] at live
  case newObject prototype entries => exact update (e := .object _ _) live trivial rfl
  case newString units => exact update (e := .string _) trivial trivial rfl
  case newCounter => exact update (e := .counter) trivial trivial rfl
  case newRegistry => exact update (e := .registry) trivial trivial rfl
  case newRuntime options =>
    have led := newRuntime_leads options (lawful.stable.reached holds)
    exact keeps_tryUpdate lawful.stable holds led fun _ _ => trivial
  case set o name value => exact lawful.set holds live.1 live.2
  case define o name value flags => exact lawful.define holds live.1 live.2
  case delete o name => exact lawful.delete holds live
  case install o properties => exact lawful.install holds live.1 live.2
  case identityOf k x => exact lawful.identityOf holds live.1 live.2
  case hashOf t => exact lawful.hashOf holds live
  case register r c => exact update (e := .register _ _) ⟨live.1, live.2, asked⟩ trivial rfl
  case registerHost rt name create => exact update (e := .host _ _ _) live trivial rfl
  case installOn rt name properties => exact lawful.installOn holds live.1 live.2
  case installStaticOn rt name properties => exact lawful.installStaticOn holds live.1 live.2
  case installSocketConnect rt => exact lawful.installSocketConnect holds live
  case constructHost rt name args =>
    exact (lawful.constructHost holds live.1 live.2).weaken fun _ _ _ _ => trivial
  case call f rt this args =>
    obtain ⟨⟨⟨function, runtime⟩, there⟩, values⟩ := live
    exact (lawful.call holds function runtime there values).weaken fun _ _ _ _ => trivial
  case invoke rt receiver name args =>
    exact (lawful.invoke holds live.1.1 live.1.2 live.2).weaken fun _ _ _ _ => trivial
  case hashCode rt receiver => exact lawful.hashCode holds live.1 live.2
  case equals rt receiver other => exact lawful.equals holds live.1.1 live.1.2 live.2
  case display rt receiver => exact lawful.display holds live.1 live.2
  case defineClass rt d =>
    exact (lawful.defineClass holds live.1 live.2).weaken fun _ _ _ _ => trivial
  case defineFlat rt name superclass entries annotations =>
    exact (lawful.defineFlat holds live.1.1 live.1.2 live.2).weaken fun _ _ _ _ => trivial
  case construct rt c args =>
    exact (lawful.construct holds live.1.1 live.1.2 live.2).weaken fun _ _ _ _ => trivial
  case constructNamed rt name args => exact lawful.constructNamed holds live.1 live.2
  case descriptorOf rt c =>
    exact (lawful.descriptorOf holds live.1 live.2).weaken fun _ _ _ _ => trivial
  case descriptorNamed rt name =>
    exact (lawful.descriptorNamed holds live).weaken fun _ _ _ _ => trivial
  case getClass rt v => exact (lawful.getClass holds live.1).weaken fun _ _ _ _ => trivial
  case isInstance rt d v => exact lawful.isInstance holds live.1.1

theorem perform (q : Request) : (s.perform q).Keeps s.watch J w anyAnswer := by
  intro r w' run
  obtain ⟨live, asked, served⟩ := Setting.perform_inv run
  exact lawful.serve holds live asked r w' served

/-- The answer to a request is what was asked for. -/
theorem perform_meets {q : Request} {r : Except Error q.Answer} {w' : World σ}
    (run : s.perform q w = some (r, w')) : q.Meets w.heap w'.heap r := by
  obtain ⟨live, _, served⟩ := Setting.perform_inv run
  cases q <;> simp only [Request.isLive, Bool.and_eq_true] at live <;> try trivial
  case identityOf k x =>
    cases served
    rfl
  case defineClass rt d =>
    exact (lawful.defineClass holds live.1 live.2 _ _ served).answer
  case defineFlat rt name superclass entries annotations =>
    exact (lawful.defineFlat holds live.1.1 live.1.2 live.2 _ _ served).answer
  case descriptorOf rt c => exact (lawful.descriptorOf holds live.1 live.2 _ _ served).answer
  case descriptorNamed rt name =>
    exact fun d found => (lawful.descriptorNamed holds live _ _ served).answer _ found d rfl
  case getClass rt v => exact (lawful.getClass holds live.1 _ _ served).answer

end Setting.Lawful

namespace Setting

variable {σ : Type} {J : World σ → Prop} {s : Setting σ} {w : World σ}

theorem run_done (holds : J w) (outcome : Except Error Value) :
    (s.run (.done outcome)).Keeps s.watch J w liveAnswer := by
  intro r w' run
  obtain ⟨rfl, rfl, live⟩ := run_done_inv run
  exact ⟨holds, .refl _ _, live⟩

theorem run_inspect {next : Heap → σ → Program σ}
    (rest : (s.run (next w.heap w.state)).Keeps s.watch J w liveAnswer) :
    (s.run (.inspect next)).Keeps s.watch J w liveAnswer := by
  intro r w' run
  unfold Setting.run at run
  split at run
  · exact rest r w' run
  · cases run

theorem run_store {state : σ} {next : Program σ}
    (rest : (s.run next).Keeps s.watch J { w with state } liveAnswer) :
    (s.run (.store state next)).Keeps s.watch J w liveAnswer := by
  intro r w' run
  have outcome := rest r w' run
  exact ⟨outcome.holds, outcome.leads, outcome.answer⟩

theorem run_newFunction {name : String} {body : Body σ} {next : FunctionRef → Program σ}
    (rest : (s.run (next w.heap.functions.fresh)).Keeps s.watch J
      ⟨(Update.newFunction name (.program w.bodies.size) w.heap).2, w.bodies.push body, w.state⟩
      liveAnswer) :
    (s.run (.newFunction name body next)).Keeps s.watch J w liveAnswer := by
  intro r w' run
  have outcome := rest r w' run
  have made : Leads s.watch w.heap (Update.newFunction name (.program w.bodies.size) w.heap).2 :=
    .of_event (e := .function name _) trivial trivial
  exact ⟨outcome.holds, made.trans outcome.leads, outcome.answer⟩

theorem run_ask (lawful : s.Lawful J) (holds : J w) {q : Request}
    {next : Except Error q.Answer → Program σ}
    (rest : ∀ r w', Kept s.watch J anyAnswer w r w' → s.perform q w = some (r, w') →
      (s.run (next r)).Keeps s.watch J w' liveAnswer) :
    (s.run (.ask q next)).Keeps s.watch J w liveAnswer := by
  intro r w'' run
  obtain ⟨answer, w', served, finish⟩ := run_ask_inv run
  have first := lawful.perform holds q answer w' served
  have last := rest answer w' first served r w'' finish
  exact ⟨last.holds, first.leads.trans last.leads, last.answer⟩

end Setting

/-- Functions called within any depth keep to the law, if programs do when the functions that they
call keep to it. -/
theorem Setting.lawful_within {σ : Type} {watch : Watch} {J : World σ → Prop}
    (stable : Stable watch J)
    (bodies : ∀ {s : Setting σ}, s.watch = watch → s.Lawful J →
      ∀ {w : World σ} {i : Nat} {body : Body σ} {rt this args}, J w → w.bodies[i]? = some body →
        (s.run (body rt this args)).Keeps watch J w liveAnswer)
    (depth : Nat) : (Setting.within (σ := σ) watch depth).Lawful J := by
  induction depth with
  | zero => exact ⟨stable, fun _ _ _ _ _ _ _ run => (nomatch run), fun _ run => (nomatch run)⟩
  | succ depth ih =>
    refine ⟨stable, ?_, ?_⟩
    · intro f rt this args w holds function runtime there live r w' run
      simp only [Setting.within, callWithin] at run
      split at run
      · exact ih.runBuiltin holds _ runtime there live r w' run
      · split at run
        · next body stored => exact bodies rfl ih holds stored r w' run
        · cases run
    · intro f b rt this args w outcome code run
      refine ⟨Setting.within watch depth, rfl, ?_⟩
      simp only [Setting.within, callWithin, code] at run
      exact run

end ProtoClass
