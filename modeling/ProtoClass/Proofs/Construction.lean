import ProtoClass.Proofs.Inheritance
import ProtoClass.Proofs.Initializers

set_option autoImplicit false

namespace ProtoClass

/-- One heap has an instance of a class more than the other, and nothing has happened to it yet. -/
structure Heap.AddsInstance (h : Heap) (c : ClassRef) (o : ObjectRef) (built : Heap) : Prop where
  new : h.objects.isLive o = false
  live : built.objects.isLive o = true
  prototype : (built.object o).prototype = some (h.klass c).prototype
  bare : (built.object o).properties = .empty
  unidentified : built.identity? (.object o) = none
  owner : built.owningClass o = some c
  /-- All else is as it was. -/
  objects : ∀ p, p ≠ o → built.object p = h.object p
  older : ∀ p, h.objects.isLive p = true → built.objects.isLive p = true
  rest : built = { h with objects := built.objects }

theorem Heap.Reached.addsInstance {h : Heap} (reached : h.Reached {}) {c : ClassRef}
    (live : h.classes.isLive c = true) :
    h.AddsInstance c h.objects.fresh (Update.newObject (some (h.klass c).prototype) h).2 := by
  have closed := reached.closed
  have prototype := (closed.klass live).prototype
  have allowed : Event.Allowed {} h (.object (some (h.klass c).prototype) []) :=
    ⟨by rintro p ⟨⟩; exact prototype, rfl⟩
  have closed' : (Update.newObject (some (h.klass c).prototype) h).2.Closed :=
    (reached.trace (.single allowed)).closed
  have cell : (Update.newObject (some (h.klass c).prototype) h).2.object h.objects.fresh =
      { prototype := some (h.klass c).prototype } := Arena.get_add_fresh _ _
  have others : ∀ p, p ≠ h.objects.fresh →
      (Update.newObject (some (h.klass c).prototype) h).2.object p = h.object p := by
    intro p other
    rw [Update.newObject, Heap.object, Arena.get_add, if_neg other]
    rfl
  -- the new object stands for no class, but the prototype behind it does
  have bound := reached.linked.bound c live
  rw [← others _ (Arena.fresh_ne_of_isLive prototype)] at bound
  exact {
    new := Arena.isLive_fresh _
    live := by simp [Update.newObject]
    prototype := by rw [cell]
    bare := by rw [cell]
    unidentified := by rw [Heap.identity?, cell]
    owner := by
      rw [closed'.owningClass_of_some (by rw [cell]) (by rw [cell]), Heap.owningClass_of_bound bound]
    objects := others
    older := fun p there => Arena.isLive_add_of_isLive there _
    rest := rfl }

/-- What is done with an answer of which only the errors count. -/
theorem Action.bind_pure_apply {σ α β : Type} (a : Action σ α) (b : β) (w : World σ) :
    (a >>= fun _ => (pure b : Action σ β)) w =
      (a w).map fun ended => (ended.1.map fun _ => b, ended.2) := by
  cases ran : a w with
  | none => exact Action.bind_of_none ran
  | some ended =>
    obtain ⟨outcome, w'⟩ := ended
    cases outcome with
    | error e => exact Action.bind_of_error ran
    | ok answer => exact Action.bind_of_ok ran

/-- A construction calls a function on its instance. -/
structure CallsConstructor {σ : Type} (w : World σ) (rt : RuntimeRef) (c : ClassRef)
    (args : List Value) (f : FunctionRef) (o : ObjectRef) (built : Heap) : Prop where
  /-- The function finds the instance as new, and everything else as it was. -/
  added : w.heap.AddsInstance c o built
  /-- It gets all arguments but the selector; the instance is given out whatever it answers, and kept
  back only by its error. -/
  called : ∀ s : Setting σ, s.watch = {} →
    s.perform (.construct rt c args) w =
      (s.call f rt (.object o) args.dropLast { w with heap := built }).map fun ended =>
        (ended.1.map fun _ => o, ended.2)
  /-- No other function is called. -/
  once : ∀ outcome bodies calls,
    (Setting.listing outcome).perform (.construct rt c args) ⟨w.heap, bodies, calls⟩ =
      some (outcome.map fun _ => o,
        ⟨built, bodies, calls ++ [⟨f, rt, .object o, args.dropLast, built⟩]⟩)

/-- How the last argument of a construction selects what is called. -/
structure SelectsConstructor {σ : Type} (w : World σ) (rt : RuntimeRef) (c : ClassRef)
    (args : List Value) : Prop where
  missing : args = [] → ∀ s : Setting σ, s.watch = {} →
    s.perform (.construct rt c args) w =
      some (.error (.missingSelector (w.heap.klass c).name), w)
  unknown : ∀ selector, args.getLast? = some selector →
    (∀ f, w.heap.get (w.heap.klass c).prototype (w.heap.variant rt selector) ≠ some (.function f)) →
    ∀ s : Setting σ, s.watch = {} →
      s.perform (.construct rt c args) w =
        some (.error (.noSuchConstructor (w.heap.klass c).name (w.heap.variant rt selector)), w)
  called : ∀ selector f, args.getLast? = some selector →
    w.heap.get (w.heap.klass c).prototype (w.heap.variant rt selector) = some (.function f) →
    ∃ o built, CallsConstructor w rt c args f o built
  /-- There is no other error than these two and that of the function. -/
  failed : ∀ (s : Setting σ) e w', s.watch = {} →
    s.perform (.construct rt c args) w = some (.error e, w') →
    (args = [] ∧ e = .missingSelector (w.heap.klass c).name ∧ w' = w) ∨
      (∃ selector, args.getLast? = some selector ∧
        (∀ f, w.heap.get (w.heap.klass c).prototype (w.heap.variant rt selector) ≠
          some (.function f)) ∧
        e = .noSuchConstructor (w.heap.klass c).name (w.heap.variant rt selector) ∧ w' = w) ∨
      ∃ selector f o built, args.getLast? = some selector ∧
        w.heap.get (w.heap.klass c).prototype (w.heap.variant rt selector) = some (.function f) ∧
        w.heap.AddsInstance c o built ∧
        s.call f rt (.object o) args.dropLast { w with heap := built } = some (.error e, w')

/-- How a name selects the class that is constructed. -/
structure SelectsClass {σ : Type} (w : World σ) (rt : RuntimeRef) (name : String) (args : List Value) :
    Prop where
  registered : ∀ c, w.heap.classNamed rt name = some c → ∀ s : Setting σ, s.watch = {} →
    s.perform (.constructNamed rt name args) w = s.perform (.construct rt c args) w
  unregistered : w.heap.classNamed rt name = none → ∀ s : Setting σ, s.watch = {} →
    s.perform (.constructNamed rt name args) w =
      some (.error (.typeError (.classNotDefined name)), w)

section Selecting

variable {σ : Type} {w : World σ} {rt : RuntimeRef} {c : ClassRef} {args : List Value}

theorem callsConstructor_of_get (reached : w.heap.Reached {}) (there : w.heap.classes.isLive c = true)
    (live : Request.isLive w.heap (.construct rt c args) = true) {selector : Value} {f : FunctionRef}
    (last : args.getLast? = some selector)
    (found : w.heap.get (w.heap.klass c).prototype (w.heap.variant rt selector) =
      some (.function f)) :
    CallsConstructor w rt c args f w.heap.objects.fresh
      (Update.newObject (some (w.heap.klass c).prototype) w.heap).2 where
  added := reached.addsInstance there
  called s free := by
    rw [Setting.perform_apply live (by rw [free])]
    exact (Setting.construct_apply last found).trans (Action.bind_pure_apply ..)
  once outcome bodies calls := by
    let listed : World (List CallMade) := ⟨w.heap, bodies, calls⟩
    have asked : Request.isLive listed.heap (.construct rt c args) = true := live
    rw [Setting.perform_apply asked rfl]
    refine (Setting.construct_apply (w := listed) last found).trans ?_
    rw [Action.bind_pure_apply]
    rfl

theorem perform_construct_of_nil (live : Request.isLive w.heap (.construct rt c []) = true)
    {s : Setting σ} (free : s.watch = {}) :
    s.perform (.construct rt c []) w = some (.error (.missingSelector (w.heap.klass c).name), w) :=
  Setting.perform_apply live (by rw [free])

theorem perform_construct_of_unknown (live : Request.isLive w.heap (.construct rt c args) = true)
    {selector : Value} (last : args.getLast? = some selector)
    (other : ∀ f, w.heap.get (w.heap.klass c).prototype (w.heap.variant rt selector) ≠
      some (.function f)) {s : Setting σ} (free : s.watch = {}) :
    s.perform (.construct rt c args) w =
      some (.error (.noSuchConstructor (w.heap.klass c).name (w.heap.variant rt selector)), w) :=
  (Setting.perform_apply live (by rw [free])).trans ((constructs_get s w rt c last).missing other)

theorem selectsConstructor_of_reached (reached : w.heap.Reached {})
    (runtime : w.heap.runtimes.isLive rt = true) (there : w.heap.classes.isLive c = true)
    (given : args.all w.heap.hasValue = true) : SelectsConstructor w rt c args := by
  have live : Request.isLive w.heap (.construct rt c args) = true := by
    rw [Request.isLive, runtime, there, given]
    rfl
  constructor
  · rintro rfl s free
    exact perform_construct_of_nil live free
  · intro selector last other s free
    exact perform_construct_of_unknown live last other free
  · intro selector f last found
    exact ⟨_, _, callsConstructor_of_get reached there live last found⟩
  · intro s e w' free run
    cases last : args.getLast? with
    | none =>
      obtain rfl := List.getLast?_eq_none_iff.1 last
      rw [perform_construct_of_nil live free] at run
      cases run
      exact Or.inl ⟨rfl, rfl, rfl⟩
    | some selector =>
      right
      by_cases function : ∃ f, w.heap.get (w.heap.klass c).prototype (w.heap.variant rt selector) =
          some (.function f)
      · obtain ⟨f, found⟩ := function
        have calls := callsConstructor_of_get reached there live last found
        rw [calls.called s free, Option.map_eq_some_iff] at run
        obtain ⟨⟨outcome, w₁⟩, ran, same⟩ := run
        -- a call that ends with a value gives out the instance, so the error is that of the call
        cases outcome with
        | ok answer => cases same
        | error e' =>
          cases same
          exact Or.inr ⟨selector, f, _, _, rfl, found, calls.added, ran⟩
      · have other := not_exists.1 function
        rw [perform_construct_of_unknown live last other free] at run
        cases run
        exact Or.inl ⟨selector, rfl, other, rfl, rfl⟩

theorem selectsClass_of_reached (reached : w.heap.Reached {})
    (runtime : w.heap.runtimes.isLive rt = true) (given : args.all w.heap.hasValue = true)
    (name : String) : SelectsClass w rt name args := by
  have live : Request.isLive w.heap (.constructNamed rt name args) = true := by
    rw [Request.isLive, runtime, given]
    rfl
  constructor
  · intro c registered s free
    have there := reached.closed.classNamed_live runtime registered
    have live' : Request.isLive w.heap (.construct rt c args) = true := by
      rw [Request.isLive, runtime, there, given]
      rfl
    rw [Setting.perform_apply live (by rw [free]), Setting.perform_apply live' (by rw [free])]
    change s.constructNamed rt name args w = s.construct rt c args w
    rw [Setting.constructNamed, Action.heap_bind_apply, registered]
  · intro missing s free
    rw [Setting.perform_apply live (by rw [free])]
    change s.constructNamed rt name args w = _
    rw [Setting.constructNamed, Action.heap_bind_apply, missing]
    rfl

end Selecting

/-- Every construction calls the variant that its last argument selects, once and on a new object, or is
refused without a trace. -/
def ConstructorsSelected {σ : Type} (w : World σ) : Prop :=
  ∀ rt args, w.heap.runtimes.isLive rt = true → args.all w.heap.hasValue = true →
    (∀ c, w.heap.classes.isLive c = true → SelectsConstructor w rt c args) ∧
      ∀ name, SelectsClass w rt name args

/-- At every moment of a run, and wherever else a program can be, constructors are selected by the last
argument. -/
theorem constructors_are_selected {σ : Type} (watch : Watch) (depth : Nat) (p : Program σ) (state : σ)
    (count : Nat) :
    (∀ m ∈ p.moments watch depth state count, ConstructorsSelected m.toWorld) ∧
      ∀ (τ : Type) (w : World τ), Reached watch w → ConstructorsSelected w :=
  everywhere_of_reached
    (fun _ _ reached _ _ runtime given =>
      ⟨fun _ there => selectsConstructor_of_reached reached runtime there given,
        selectsClass_of_reached reached runtime given⟩)
    watch depth p state count

/-- Defines a class whose constructor, when it gets an argument, constructs another instance and then
defines another class of the same name. -/
def selecting : Program Unit := Script.toProgram do
  let rt ← Script.ask (.newRuntime {})
  let f ← Script.newFunction "f" fun rt _ args => Script.toProgram do
    if args.isEmpty then return .null
    let _ ← Script.ask (.constructNamed rt "A" [.integer 0])
    return .klass (← Script.ask (.defineClass rt { name := "A" }))
  return .klass (← Script.ask (.defineFlat rt "A" "" [("$0", .function f)] none))

/-- The instance is given out though its constructor answers with a class that has taken over the name. -/
theorem selecting_calls :
    ∃ m ∈ selecting.moments {} 2 () 20,
      (∃ o built w', CallsConstructor m.toWorld ⟨0⟩ ⟨2⟩ [.integer 7, .integer 0] ⟨16⟩ o built ∧
        (Setting.within {} 3).perform (.construct ⟨0⟩ ⟨2⟩ [.integer 7, .integer 0]) m.toWorld =
          some (.ok o, w') ∧ w'.heap.classNamed ⟨0⟩ "A" = some ⟨3⟩) ∧
      (Setting.within {} 3).perform (.construct ⟨0⟩ ⟨2⟩ []) m.toWorld =
        some (.error (.missingSelector "A"), m.toWorld) ∧
      (Setting.within {} 3).perform (.construct ⟨0⟩ ⟨2⟩ [.null]) m.toWorld =
        some (.error (.noSuchConstructor "A" "$null"), m.toWorld) ∧
      (Setting.within {} 3).perform (.constructNamed ⟨0⟩ "B" []) m.toWorld =
        some (.error (.typeError (.classNotDefined "B")), m.toWorld) := by
  have ends : (selecting.moments {} 2 () 20).any (fun m =>
      m.heap.runtimes.isLive ⟨0⟩ && m.heap.classes.isLive ⟨2⟩ &&
      decide ((m.heap.klass ⟨2⟩).name = "A") &&
      decide (m.heap.get (m.heap.klass ⟨2⟩).prototype (m.heap.variant ⟨0⟩ (.integer 0)) =
        some (.function ⟨16⟩)) &&
      decide (m.heap.variant ⟨0⟩ .null = "$null") &&
      decide (m.heap.get (m.heap.klass ⟨2⟩).prototype "$null" = none) &&
      decide (m.heap.classNamed ⟨0⟩ "B" = none) &&
      decide (((Setting.within {} 3).perform (.construct ⟨0⟩ ⟨2⟩ [.integer 7, .integer 0])
        m.toWorld).map (fun ended => (ended.1.toOption.isSome, ended.2.heap.classNamed ⟨0⟩ "A")) =
          some (true, some ⟨3⟩))) = true := by
    decide +kernel
  obtain ⟨m, member, facts⟩ := List.any_eq_true.1 ends
  simp only [Bool.and_eq_true, decide_eq_true_iff] at facts
  obtain ⟨⟨⟨⟨⟨⟨⟨runtime, there⟩, name⟩, found⟩, text⟩, absent⟩, unregistered⟩, ran⟩ := facts
  have selected := (constructors_are_selected {} 2 selecting () 20).1 m member ⟨0⟩
  have zero := (selected [.integer 7, .integer 0] runtime rfl).1 ⟨2⟩ there
  have none := (selected [] runtime rfl).1 ⟨2⟩ there
  have null := (selected [.null] runtime rfl).1 ⟨2⟩ there
  refine ⟨m, member, ?_, ?_, ?_, ?_⟩
  · obtain ⟨o, built, calls⟩ := zero.called (.integer 0) ⟨16⟩ rfl found
    obtain ⟨⟨outcome, w'⟩, run, ended⟩ := Option.map_eq_some_iff.1 ran
    rw [Prod.mk.injEq] at ended
    refine ⟨o, built, w', calls, ?_, ended.2⟩
    rw [calls.called _ rfl, Option.map_eq_some_iff] at run ⊢
    obtain ⟨⟨answer, w₁⟩, called, same⟩ := run
    rw [Prod.mk.injEq] at same
    obtain ⟨rfl, rfl⟩ := same
    cases answer with
    | error e => cases ended.1
    | ok v => exact ⟨(.ok v, w₁), called, rfl⟩
  · rw [none.missing rfl _ rfl, name]
  · rw [null.unknown .null rfl (fun f => by rw [text, absent]; exact nofun) _ rfl, name, text]
  · exact ((selected [] runtime rfl).2 "B").unregistered unregistered _ rfl

end ProtoClass
