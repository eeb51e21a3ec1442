import ProtoClass.Proofs.Labels

/-
All operations are put together from actions in the same few ways, whatever functions they call and
whatever the state of the program is. So what relates an action of one setting to one of another
setting, and is kept by those ways, relates every operation in the one to the same in the other. The
relation may depend on which events are made: an operation is related to itself as soon as the events
are covered that it may make.
-/

set_option autoImplicit false

namespace ProtoClass

/-- A relation between actions of two settings that is kept when actions are put together, as long as
these make no other events than the given ones. -/
structure Congruence {σ τ : Type} (s : Setting σ) (t : Setting τ) (made : Event → Prop) where
  rel : ∀ {α : Type}, Action σ α → Action τ α → Prop
  pure : ∀ {α : Type} (a : α), rel (Pure.pure a) (Pure.pure a)
  fail : ∀ {α : Type} (e : Error), rel (Action.fail e : Action σ α) (Action.fail e)
  ofExcept : ∀ {α : Type} (r : Except Error α), rel (Action.ofExcept r) (Action.ofExcept r)
  ofOption : ∀ {α : Type} (x : Option α), rel (Action.ofOption x) (Action.ofOption x)
  bind : ∀ {α β : Type} {x : Action σ α} {y : Action τ α} {f : α → Action σ β}
    {g : α → Action τ β}, rel x y → (∀ a, rel (f a) (g a)) → rel (x >>= f) (y >>= g)
  heap : ∀ {β : Type} {f : Heap → Action σ β} {g : Heap → Action τ β},
    (∀ h, rel (f h) (g h)) → rel (Action.heap >>= f) (Action.heap >>= g)
  attempt : ∀ {α : Type} {x : Action σ α} {y : Action τ α}, rel x y → rel x.attempt y.attempt
  update : ∀ {α : Type} {u : Update α} {e : Event}, made e → (∀ h, (u h).2 = e.apply h) →
    rel (Action.update u) (Action.update u)
  tryUpdate : ∀ {α : Type} {u : Update (Except Error α)} {e : Event}, made e →
    (∀ h, (u h).2 = e.apply h) → rel (Action.tryUpdate u) (Action.tryUpdate u)
  newRuntime : (∀ e : Event, e.SetsUp → made e) → ∀ options,
    rel (Action.tryUpdate (Update.newRuntime options)) (Action.tryUpdate (Update.newRuntime options))
  write : ∀ {α : Type} (o : ObjectRef) {u : Update α} (wrote : α → Bool) {e : Event}, made e →
    (∀ h, (u h).2 = e.apply h) → rel (s.write o u wrote) (t.write o u wrote)
  call : ∀ f rt this args, rel (s.call f rt this args) (t.call f rt this args)

namespace Congruence

variable {σ τ : Type} {s : Setting σ} {t : Setting τ} {made : Event → Prop}
  (cong : Congruence s t made)

/-- What follows a check may rely on its result. -/
theorem ofExcept_bind {α β : Type} {r : Except Error α} {f : α → Action σ β} {g : α → Action τ β}
    (rest : ∀ a, r = .ok a → cong.rel (f a) (g a)) :
    cong.rel (Action.ofExcept r >>= f) (Action.ofExcept r >>= g) := by
  cases r with
  | error e => exact cong.fail e
  | ok a => exact rest a rfl

theorem set {o : ObjectRef} {name : String} {value : Value} (covers : made (.set o name value)) :
    cong.rel (s.set o name value) (t.set o name value) :=
  cong.write o _ covers fun _ => rfl

theorem install {o : ObjectRef} {properties : List (String × Value)}
    (covers : made (.install o properties)) :
    cong.rel (s.install o properties) (t.install o properties) :=
  cong.write o _ covers fun _ => rfl

theorem invoke (rt : RuntimeRef) (receiver : Value) (name : String) (args : List Value) :
    cong.rel (s.invoke rt receiver name args) (t.invoke rt receiver name args) := by
  refine cong.heap fun h => ?_
  split
  · exact cong.call _ _ _ _
  · exact cong.fail _
  · exact cong.fail _

theorem hashCode (rt : RuntimeRef) (receiver : Value) :
    cong.rel (s.hashCode rt receiver) (t.hashCode rt receiver) := by
  refine cong.bind (cong.invoke _ _ _ _) fun v => ?_
  split
  · exact cong.pure _
  · exact cong.fail _

theorem equals (rt : RuntimeRef) (receiver other : Value) :
    cong.rel (s.equals rt receiver other) (t.equals rt receiver other) :=
  cong.bind (cong.invoke _ _ _ _) fun _ => cong.heap fun _ => cong.pure _

theorem display (rt : RuntimeRef) (receiver : Value) :
    cong.rel (s.display rt receiver) (t.display rt receiver) :=
  cong.bind (cong.invoke _ _ _ _) fun _ => cong.heap fun _ => cong.pure _

theorem construct (rt : RuntimeRef) (c : ClassRef) (args : List Value)
    (covers : ∀ p, made (.object (some p) [])) :
    cong.rel (s.construct rt c args) (t.construct rt c args) := by
  refine cong.heap fun h => ?_
  split
  · exact cong.fail _
  · dsimp only
    split
    · refine cong.bind (cong.update (covers _) fun _ => rfl) fun o => ?_
      exact cong.bind (cong.call _ _ _ _) fun _ => cong.pure _
    · exact cong.fail _

theorem constructNamed (rt : RuntimeRef) (name : String) (args : List Value)
    (covers : ∀ p, made (.object (some p) [])) :
    cong.rel (s.constructNamed rt name args) (t.constructNamed rt name args) := by
  refine cong.heap fun h => ?_
  split
  · exact cong.construct _ _ _ covers
  · exact cong.fail _

theorem defineClass (rt : RuntimeRef) (d : Definition) (covers : ∀ p, made (.klass rt d p)) :
    cong.rel (s.defineClass rt d) (t.defineClass rt d) := by
  refine cong.heap fun h => cong.bind (cong.ofExcept _) fun superclass => ?_
  refine cong.bind (cong.update (covers _) fun _ => rfl) fun c => ?_
  split
  · exact cong.bind (cong.call _ _ _ _) fun _ => cong.pure _
  · exact cong.pure _

theorem defineFlat (rt : RuntimeRef) (name superclass : String)
    (entries : List (String × Value)) (annotations : Option (List (String × Value)))
    (covers : ∀ d p, made (.klass rt d p)) :
    cong.rel (s.defineFlat rt name superclass entries annotations)
      (t.defineFlat rt name superclass entries annotations) :=
  cong.heap fun _ => cong.bind (cong.ofExcept _) fun d => cong.defineClass _ _ (covers d)

theorem installOn (rt : RuntimeRef) (name : String) {properties : List (String × Value)}
    (covers : ∀ o, made (.install o properties)) :
    cong.rel (s.installOn rt name properties) (t.installOn rt name properties) := by
  refine cong.heap fun h => ?_
  split
  · exact cong.bind (cong.install (covers _)) fun _ => cong.pure _
  · exact cong.pure _

theorem installStaticOn (rt : RuntimeRef) (name : String) {properties : List (String × Value)}
    (covers : ∀ o, made (.install o properties)) :
    cong.rel (s.installStaticOn rt name properties) (t.installStaticOn rt name properties) := by
  refine cong.heap fun h => ?_
  split
  · exact cong.bind (cong.install (covers _)) fun _ => cong.pure _
  · exact cong.pure _

theorem installSocketConnect (rt : RuntimeRef)
    (function : made (.function "WebSocket.connect" (.builtin .socketConnect)))
    (covers : ∀ o f, made (.install o [("connect", .function f)])) :
    cong.rel (s.installSocketConnect rt) (t.installSocketConnect rt) :=
  cong.bind (cong.update function fun _ => rfl) fun _ =>
    cong.installStaticOn _ _ fun o => covers o _

theorem constructHost (rt : RuntimeRef) (name : String) (args : List Value) :
    cong.rel (s.constructHost rt name args) (t.constructHost rt name args) := by
  refine cong.heap fun h => ?_
  split
  · exact cong.fail _
  · split
    · exact cong.fail _
    · exact cong.call _ _ _ _

theorem wire (connection listener : ObjectRef) (slots : List (String × String))
    (covers : ∀ slot ∈ slots.map Prod.snd, ∀ v, made (.set connection slot v)) :
    cong.rel (s.wire connection listener slots) (t.wire connection listener slots) := by
  induction slots with
  | nil => exact cong.pure _
  | cons slot rest ih =>
    have others := ih fun name among => covers name (List.mem_cons_of_mem _ among)
    refine cong.heap fun h => ?_
    split
    · exact cong.bind (cong.set (covers _ List.mem_cons_self _)) fun _ => others
    · exact others

theorem socketConnect (rt : RuntimeRef) (args : List Value)
    (covers : ∀ o, ∀ slot ∈ socketCallbacks.map Prod.snd, ∀ v, made (.set o slot v)) :
    cong.rel (s.socketConnect rt args) (t.socketConnect rt args) := by
  refine cong.bind (cong.constructHost _ _ _) fun connection => ?_
  split
  · split
    · exact cong.bind (cong.wire _ _ _ (covers _)) fun _ => cong.pure _
    · exact cong.pure _
  · exact cong.fail _

theorem metadataClass (rt : RuntimeRef) :
    cong.rel (Action.metadataClass rt) (Action.metadataClass rt) := by
  refine cong.heap fun h => ?_
  dsimp only
  split
  · exact cong.pure _
  · exact cong.fail _

section Descriptors

variable (covers : ∀ e : Event, e.MakesDescriptor → made e)
include covers

theorem makeDescriptor (rt : RuntimeRef) (c : ClassRef) (superclass : Option DescriptorRef) :
    cong.rel (s.makeDescriptor rt c superclass) (t.makeDescriptor rt c superclass) := by
  refine cong.bind (cong.metadataClass rt) fun metadata => cong.heap fun h => ?_
  refine cong.bind (cong.update (covers (.string _) trivial) fun _ => rfl) fun name => ?_
  refine cong.heap fun h' => ?_
  refine cong.bind (cong.construct _ _ _ fun p => covers _ trivial) fun object => ?_
  refine cong.heap fun h'' => ?_
  split
  · exact cong.pure _
  · exact cong.update (covers (.describe c _) trivial) fun _ => rfl

theorem describeAlong (rt : RuntimeRef) (c : ClassRef) (others : List ClassRef) :
    cong.rel (s.describeAlong rt c others) (t.describeAlong rt c others) := by
  induction others generalizing c with
  | nil =>
    refine cong.heap fun h => ?_
    split
    · exact cong.pure _
    · exact cong.makeDescriptor covers _ _ _
  | cons superclass rest ih =>
    refine cong.heap fun h => ?_
    split
    · exact cong.pure _
    · exact cong.bind (ih superclass) fun _ => cong.makeDescriptor covers _ _ _

theorem descriptorOf (rt : RuntimeRef) (c : ClassRef) :
    cong.rel (s.descriptorOf rt c) (t.descriptorOf rt c) :=
  cong.heap fun _ => cong.describeAlong covers _ _ _

theorem descriptorNamed (rt : RuntimeRef) (name : String) :
    cong.rel (s.descriptorNamed rt name) (t.descriptorNamed rt name) := by
  refine cong.heap fun h => ?_
  split
  · exact cong.bind (cong.descriptorOf covers _ _) fun _ => cong.pure _
  · exact cong.pure _

theorem getClass (rt : RuntimeRef) (v : Value) : cong.rel (s.getClass rt v) (t.getClass rt v) := by
  cases v with
  | object o =>
    refine cong.heap fun h => ?_
    split
    · exact cong.descriptorOf covers _ _
    · exact cong.fail _
  | klass c => exact cong.bind (cong.metadataClass rt) fun _ => cong.descriptorOf covers _ _
  | _ => exact cong.fail _

theorem isInstance (rt : RuntimeRef) (d : DescriptorRef) (v : Value) :
    cong.rel (s.isInstance rt d v) (t.isInstance rt d v) := by
  refine cong.bind (cong.attempt (cong.getClass covers _ _)) fun r => ?_
  split
  · exact cong.heap fun _ => cong.pure _
  · exact cong.pure _
  · exact cong.fail _

theorem descriptorIsInstance (rt : RuntimeRef) (this : Value) (args : List Value) :
    cong.rel (s.descriptorIsInstance rt this args) (t.descriptorIsInstance rt this args) := by
  refine cong.bind (cong.ofExcept _) fun o => ?_
  refine cong.bind (cong.attempt (cong.getClass covers _ _)) fun r => ?_
  split
  · exact cong.heap fun _ => cong.bind (cong.ofOption _) fun _ => cong.pure _
  · exact cong.pure _
  · exact cong.fail _

end Descriptors

theorem text {u : String} (covers : ∀ units, made (.string units)) :
    cong.rel (Action.text u) (Action.text u) :=
  cong.bind (cong.update (covers _) fun _ => rfl) fun _ => cong.pure _

theorem objectToString (rt : RuntimeRef) (this : Value) (covers : ∀ units, made (.string units)) :
    cong.rel (s.objectToString rt this) (t.objectToString rt this) := by
  cases this with
  | object o =>
    refine cong.heap fun _ => cong.bind (cong.invoke _ _ _ _) fun _ => ?_
    exact cong.heap fun _ => cong.text covers
  | _ => exact cong.heap fun _ => cong.text covers

theorem stringArguments (context : String) (missing : TypeError) (this : Value)
    (args : List Value) : cong.rel (Setting.stringArguments context missing this args)
      (Setting.stringArguments context missing this args) := by
  refine cong.bind (cong.ofExcept _) fun t => ?_
  split
  · exact cong.fail _
  · exact cong.bind (cong.ofExcept _) fun _ => cong.heap fun _ => cong.pure _

theorem descriptorName (member : String) (this : Value) :
    cong.rel (Setting.descriptorName member this) (Setting.descriptorName member this) :=
  cong.bind (cong.ofExcept _) fun _ => cong.heap fun _ => cong.pure _

theorem descriptorSlot (member slot : String) (this : Value) :
    cong.rel (Setting.descriptorSlot member slot this) (Setting.descriptorSlot member slot this) :=
  cong.bind (cong.ofExcept _) fun _ => cong.heap fun _ => cong.pure _

/-- The constructor of descriptor objects writes to its receiver only. -/
theorem descriptorNew (this : Value) (args : List Value)
    (covers : ∀ o, this = .object o → ∀ slot ∈ descriptorSlots, ∀ v, made (.set o slot v)) :
    cong.rel (s.descriptorNew this args) (t.descriptorNew this args) := by
  refine cong.ofExcept_bind fun o expected => ?_
  have here : this = .object o := by
    cases this <;> cases expected
    rfl
  have write := fun slot among v => cong.set (covers o here slot among v)
  refine cong.bind (write "name" (by simp [descriptorSlots]) _) fun _ => ?_
  refine cong.bind (write "prototype" (by simp [descriptorSlots]) _) fun _ => ?_
  refine cong.bind (write "annotations" (by simp [descriptorSlots]) _) fun _ => ?_
  refine cong.bind (write "superclass" (by simp [descriptorSlots]) _) fun _ => ?_
  exact cong.pure _

theorem descriptorIsAssignableFrom (this : Value) (args : List Value) :
    cong.rel (Setting.descriptorIsAssignableFrom this args)
      (Setting.descriptorIsAssignableFrom this args) := by
  refine cong.bind (cong.ofExcept _) fun o => ?_
  split
  · exact cong.heap fun _ => cong.bind (cong.ofOption _) fun _ => cong.pure _
  · exact cong.fail _
  · exact cong.pure _

theorem hashOf {u : StringRef} (covers : made (.hash u)) :
    cong.rel (Action.update (Update.hashOf u)) (Action.update (Update.hashOf u)) :=
  cong.update covers fun _ => rfl

/-- The hash codes of what has an identity ask for that. -/
theorem objectHashCode (rt : RuntimeRef) (this : Value)
    (covers : ∀ e, Builtin.objectHashCode.Makes this e → made e) :
    cong.rel (Setting.objectHashCode rt this) (Setting.objectHashCode rt this) := by
  have identity : ∀ k x, this = Identified.value x →
      cong.rel (Action.tryUpdate (Update.identityOf k x)) (Action.tryUpdate (Update.identityOf k x)) :=
    fun k x same => cong.tryUpdate (covers (.identity k x) (.inl ⟨k, x, same, rfl⟩)) fun _ => rfl
  refine cong.heap fun h => ?_
  cases this with
  | object o => exact cong.bind (identity _ (.object o) rfl) fun _ => cong.pure _
  | klass c => exact cong.bind (identity _ (.klass c) rfl) fun _ => cong.pure _
  | function f => exact cong.bind (identity _ (.function f) rfl) fun _ => cong.pure _
  | string u => exact cong.bind (cong.hashOf (covers _ (.inr ⟨u, rfl, rfl⟩))) fun _ => cong.pure _
  | integer i => exact cong.pure _
  | _ => exact cong.fail _

/-- A built-in function is related to itself when the events are covered that it may make. -/
theorem runBuiltin (b : Builtin) (rt : RuntimeRef) (this : Value) (args : List Value)
    (covers : ∀ e, b.Makes this e → made e) :
    cong.rel (s.runBuiltin b rt this args) (t.runBuiltin b rt this args) := by
  cases b with
  | objectHashCode => exact cong.objectHashCode rt this covers
  | objectEquals => exact cong.heap fun _ => cong.pure _
  | objectToString => exact cong.objectToString _ _ fun units => covers _ ⟨units, rfl⟩
  | objectGetClass =>
    exact cong.bind (cong.getClass covers _ _) fun _ => cong.heap fun _ => cong.pure _
  | stringHashCode =>
    refine cong.ofExcept_bind fun t expected => ?_
    have here : this = .string t := by
      cases this <;> cases expected
      rfl
    exact cong.bind (cong.hashOf (covers _ ⟨t, here, rfl⟩)) fun _ => cong.pure _
  | stringStartsWith =>
    exact cong.bind (cong.stringArguments _ _ _ _) fun _ => cong.pure _
  | stringEndsWith =>
    exact cong.bind (cong.stringArguments _ _ _ _) fun _ => cong.pure _
  | descriptorNew =>
    exact cong.descriptorNew _ _ fun o same slot among v => covers _ ⟨o, slot, v, same, among, rfl⟩
  | descriptorGetName | descriptorGetSimpleName | descriptorToString =>
    exact cong.bind (cong.descriptorName _ _) fun _ => cong.text fun units => covers _ ⟨units, rfl⟩
  | descriptorGetSuperclass => exact cong.descriptorSlot _ _ _
  | descriptorGetAnnotations => exact cong.descriptorSlot _ _ _
  | descriptorIsAssignableFrom => exact cong.descriptorIsAssignableFrom _ _
  | descriptorIsInstance => exact cong.descriptorIsInstance covers _ _ _
  | classToString name => exact cong.text fun units => covers _ ⟨units, rfl⟩
  | socketConnect =>
    exact cong.socketConnect _ _ fun o slot among v => covers _ ⟨o, slot, v, among, rfl⟩

/-- So is every request. -/
theorem serve (q : Request) (covers : ∀ e, q.Makes e → made e) :
    cong.rel (s.serve q) (t.serve q) := by
  have update : ∀ {α : Type} {u : Update α} {e : Event}, q.Makes e → (∀ h, (u h).2 = e.apply h) →
      cong.rel (Action.update u) (Action.update u) :=
    fun makes effect => cong.update (covers _ makes) effect
  cases q with
  | newObject prototype entries => exact update (e := .object _ _) rfl fun _ => rfl
  | newString units => exact update (e := .string _) rfl fun _ => rfl
  | newCounter => exact update (e := .counter) rfl fun _ => rfl
  | newRegistry => exact update (e := .registry) rfl fun _ => rfl
  | newRuntime options => exact cong.newRuntime covers options
  | set o name value => exact cong.set (covers _ rfl)
  | define o name value flags =>
    exact cong.write o _ (covers (.define o name value flags) rfl) fun _ => rfl
  | delete o name => exact cong.write o _ (covers (.delete o name) rfl) fun _ => rfl
  | install o properties => exact cong.install (covers _ rfl)
  | identityOf k x => exact cong.tryUpdate (covers (.identity k x) rfl) fun _ => rfl
  | hashOf t => exact cong.hashOf (covers _ rfl)
  | register r c => exact update (e := .register _ _) rfl fun _ => rfl
  | registerHost rt name create => exact update (e := .host _ _ _) rfl fun _ => rfl
  | installOn rt name properties => exact cong.installOn _ _ fun o => covers _ ⟨o, rfl⟩
  | installStaticOn rt name properties => exact cong.installStaticOn _ _ fun o => covers _ ⟨o, rfl⟩
  | installSocketConnect rt =>
    exact cong.installSocketConnect _ (covers _ (.inl rfl)) fun o f => covers _ (.inr ⟨o, f, rfl⟩)
  | constructHost rt name args => exact cong.constructHost _ _ _
  | call f rt this args => exact cong.call _ _ _ _
  | invoke rt receiver name args => exact cong.invoke _ _ _ _
  | hashCode rt receiver => exact cong.hashCode _ _
  | equals rt receiver other => exact cong.equals _ _ _
  | display rt receiver => exact cong.display _ _
  | defineClass rt d => exact cong.defineClass _ _ fun p => covers _ ⟨p, rfl⟩
  | defineFlat rt name superclass entries annotations =>
    exact cong.defineFlat _ _ _ _ _ fun d p => covers _ ⟨d, p, rfl⟩
  | construct rt c args => exact cong.construct _ _ _ fun p => covers _ ⟨p, rfl⟩
  | constructNamed rt name args => exact cong.constructNamed _ _ _ fun p => covers _ ⟨p, rfl⟩
  | descriptorOf rt c => exact cong.descriptorOf covers _ _
  | descriptorNamed rt name => exact cong.descriptorNamed covers _ _
  | getClass rt v => exact cong.getClass covers _ _
  | isInstance rt d v => exact cong.isInstance covers _ _ _

end Congruence

end ProtoClass
