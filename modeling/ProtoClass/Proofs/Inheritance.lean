import ProtoClass.Proofs.Permanence
import ProtoClass.Proofs.StringSurface
import ProtoClass.Proofs.Variants
import ProtoClass.Proofs.Writes
import ProtoClass.Proofs.WritingRequests

set_option autoImplicit false

/- Members are found along prototypes, but prototypes mirror the superclasses that a class got when it
was defined. So an object sees what it has itself, else what the nearest of its class and the
superclasses has; and what it sees changes only when one of these is written, not by what is defined or
written elsewhere. -/
namespace ProtoClass

/-- What the nearest of a class and its superclasses has on its prototype under a name. -/
def Heap.nearest (h : Heap) (c : ClassRef) (name : String) : Option Value :=
  (h.ancestry c).findSome? fun k => h.getOwn (h.klass k).prototype name

/-- What an instance of a class sees: its own value, else that of the nearest class. -/
def Heap.inherited (h : Heap) (c : ClassRef) (o : ObjectRef) (name : String) : Option Value :=
  (h.getOwn o name).or (h.nearest c name)

theorem Heap.isLive_of_prototype {h : Heap} {o p : ObjectRef}
    (link : (h.object o).prototype = some p) : h.objects.isLive o = true := by
  by_cases live : h.objects.isLive o = true
  · exact live
  · rw [Heap.object, Arena.get_of_not_isLive live] at link
    cases link

section Linked

variable {h : Heap} (linked : Linked h) (closed : h.Closed)
include linked closed

theorem Linked.get_prototype {c : ClassRef} (live : h.classes.isLive c = true) (name : String) :
    h.get (h.klass c).prototype name = h.nearest c name := by
  rw [Heap.get, linked.chain_prototype closed live, List.findSome?_map]
  rfl

theorem Linked.get_instance {c : ClassRef} (live : h.classes.isLive c = true) {o : ObjectRef}
    (link : (h.object o).prototype = some (h.klass c).prototype) (name : String) :
    h.get o name = h.inherited c o name := by
  rw [Heap.get_eq_or, closed.chain_of_some link, List.tail_cons, ← Heap.get,
    linked.get_prototype closed live, Heap.inherited]

end Linked

section Dispatch

variable {σ : Type}

/-- Calling a member of a receiver does with what is found what it should. -/
structure Dispatches (s : Setting σ) (w : World σ) (rt : RuntimeRef) (receiver : Value) (name : String)
    (args : List Value) (found : Option Value) : Prop where
  /-- A function is called with the receiver itself. -/
  call : ∀ f, found = some (.function f) →
    s.invoke rt receiver name args w = s.call f rt receiver args w
  notCallable : ∀ v, found = some v → v.function? = none →
    s.invoke rt receiver name args w = some (.error (.notCallable name), w)
  missing : found = none → s.invoke rt receiver name args w =
    some (.error (.noSuchMember (w.heap.describe receiver) name), w)

theorem dispatches_lookup (s : Setting σ) (w : World σ) (rt : RuntimeRef) (receiver : Value)
    (name : String) (args : List Value) :
    Dispatches s w rt receiver name args (w.heap.lookup rt receiver name) where
  call f found := Setting.invoke_apply found args
  notCallable v found other := by
    unfold Setting.invoke
    rw [Action.heap_bind_apply, found]
    cases v with
    | function f => cases other
    | _ => rfl
  missing none := by
    unfold Setting.invoke
    rw [Action.heap_bind_apply, none]
    rfl

/-- Constructing an instance of a class does with the constructor variant that is found what it
should. -/
structure Constructs (s : Setting σ) (w : World σ) (rt : RuntimeRef) (c : ClassRef) (args : List Value)
    (variant : String) (found : Option Value) : Prop where
  /-- A function is called on a new instance with all arguments but the selector. -/
  call : ∀ f, found = some (.function f) → s.construct rt c args w =
    (s.call f rt (.object w.heap.objects.fresh) args.dropLast >>= fun _ =>
        (pure w.heap.objects.fresh : Action σ ObjectRef))
      { w with heap := (Update.newObject (some (w.heap.klass c).prototype) w.heap).2 }
  missing : (∀ f, found ≠ some (.function f)) → s.construct rt c args w =
    some (.error (.noSuchConstructor (w.heap.klass c).name variant), w)

theorem constructs_get (s : Setting σ) (w : World σ) (rt : RuntimeRef) (c : ClassRef)
    {args : List Value} {selector : Value} (last : args.getLast? = some selector) :
    Constructs s w rt c args (w.heap.variant rt selector)
      (w.heap.get (w.heap.klass c).prototype (w.heap.variant rt selector)) where
  call f found := Setting.construct_apply last found
  missing other := by
    unfold Setting.construct
    rw [Action.heap_bind_apply, last]
    dsimp only
    cases found : w.heap.get (w.heap.klass c).prototype (w.heap.variant rt selector) with
    | none => rfl
    | some v =>
      cases v with
      | function f => exact absurd found (other f)
      | _ => rfl

end Dispatch

/-- The nearest definition along the superclasses of a class is what its instances see, what calling a
member calls, and what constructing an instance calls. -/
structure NearestWins {σ : Type} (w : World σ) (c : ClassRef) : Prop where
  root : (w.heap.klass c).superclass = none → w.heap.ancestry c = [c]
  superclass : ∀ s, (w.heap.klass c).superclass = some s →
    w.heap.ancestry c = c :: w.heap.ancestry s
  get : ∀ o name, (w.heap.object o).prototype = some (w.heap.klass c).prototype →
    w.heap.get o name = w.heap.inherited c o name
  invoke : ∀ (s : Setting σ) rt o name args,
    (w.heap.object o).prototype = some (w.heap.klass c).prototype →
    Dispatches s w rt (.object o) name args (w.heap.inherited c o name)
  construct : ∀ (s : Setting σ) rt args selector, args.getLast? = some selector →
    Constructs s w rt c args (w.heap.variant rt selector)
      (w.heap.nearest c (w.heap.variant rt selector))

theorem nearestWins_of_reached {σ : Type} {watch : Watch} {w : World σ} (reached : Reached watch w)
    {c : ClassRef} (live : w.heap.classes.isLive c = true) : NearestWins w c := by
  have reached : w.heap.Reached watch := reached
  have closed := reached.closed
  have linked := reached.linked
  refine ⟨Heap.ancestry_of_none, fun s => closed.ancestry_of_some,
    fun o name link => linked.get_instance closed live link name, ?_, ?_⟩
  · intro s rt o name args link
    rw [← linked.get_instance closed live link]
    exact dispatches_lookup s w rt (.object o) name args
  · intro s rt args selector last
    rw [← linked.get_prototype closed live]
    exact constructs_get s w rt c last

/-- A name is seen alike in two heaps: on a class, and on those of its instances that are spared. -/
structure SameAnswers (h h' : Heap) (c : ClassRef) (spared : ObjectRef → Prop) (name : String) :
    Prop where
  nearest : h'.nearest c name = h.nearest c name
  get : ∀ o, spared o → (h.object o).prototype = some (h.klass c).prototype →
    (h'.object o).prototype = some (h'.klass c).prototype ∧ h'.get o name = h.get o name

section Answers

variable {watch : Watch} {h h' : Heap} (reached : h.Reached watch) (reached' : h'.Reached watch)
  (extended : h.Extends h') {c : ClassRef} (live : h.classes.isLive c = true)
include reached reached' extended live

/-- A name is seen alike as long as the prototypes of the class and its superclasses, and the instance,
have the same under it. -/
theorem sameAnswers_of_own {spared : ObjectRef → Prop} {name : String}
    (own : ∀ k ∈ h.ancestry c, Heap.SameOwn (h.klass k).prototype name h h')
    (kept : ∀ o, spared o → Heap.SameOwn o name h h') : SameAnswers h h' c spared name := by
  have closed := reached.closed
  have above := closed.ancestry_live live
  have nearest : h'.nearest c name = h.nearest c name := by
    rw [Heap.nearest, Heap.nearest, closed.ancestry_later extended reached'.closed live]
    apply findSome?_congr
    intro k among
    obtain ⟨_, same⟩ := own k among (closed.klass (above k among)).prototype
    rw [(extended.klass (above k among)).prototype, Heap.getOwn, Heap.getOwn, same]
  refine ⟨nearest, fun o sparing link => ?_⟩
  have there := Heap.isLive_of_prototype link
  obtain ⟨_, same⟩ := kept o sparing there
  have link' : (h'.object o).prototype = some (h'.klass c).prototype := by
    rw [(extended.object there).prototype, link, (extended.klass live).prototype]
  refine ⟨link', ?_⟩
  rw [reached'.linked.get_instance reached'.closed (extended.classes.isLive live) link',
    reached.linked.get_instance closed live link, Heap.inherited, Heap.inherited, nearest,
    Heap.getOwn, Heap.getOwn, same]

theorem sameAnswers_of_untouched (untouched : h.Untouched h') (name : String) :
    SameAnswers h h' c (fun _ => True) name :=
  sameAnswers_of_own reached reached' extended live (fun _ _ => untouched.sameOwn _ _)
    fun o _ => untouched.sameOwn o name

end Answers

/-- What lasts of the rule over events, for a class of the earlier heap. -/
structure NearestLasts (watch : Watch) (h h' : Heap) (c : ClassRef) : Prop where
  ancestry : h'.ancestry c = h.ancestry c
  /-- A name is seen alike as long as nothing writes it on the class or its superclasses, and on the
  instance. -/
  answers : ∀ es name, Trace watch h es h' →
    (∀ e ∈ es, ∀ k ∈ h.ancestry c, ¬ e.Writes (h.klass k).prototype name) →
    SameAnswers h h' c (fun o => ∀ e ∈ es, ¬ e.Writes o name) name
  variant : ∀ rt v, h.runtimes.isLive rt = true → h.hasValue v = true →
    h'.variant rt v = h.variant rt v
  /-- No other class, be it a subclass or a sibling, has a prototype on which the rule looks, -/
  apart : ∀ k, h'.classes.isLive k = true → k ∉ h.ancestry c →
    ∀ s ∈ h.ancestry c, (h'.klass k).prototype ≠ (h.klass s).prototype
  /-- and no instance that is the prototype of no class becomes that of one. -/
  unbound : ∀ k o, h'.classes.isLive k = true → h.objects.isLive o = true →
    (h.object o).boundClass = none → (h'.klass k).prototype ≠ o

theorem Trace.sameOwn {watch : Watch} {h h' : Heap} {es : List Event} (trace : Trace watch h es h')
    {o : ObjectRef} {name : String} (unwritten : ∀ e ∈ es, ¬ e.Writes o name) :
    Heap.SameOwn o name h h' :=
  fun live => ⟨trace.extends.objects.isLive live, trace.ownProperty_eq live unwritten⟩

theorem nearestLasts_of_trace {watch : Watch} {h h' : Heap} {es : List Event} (reached : h.Reached watch)
    (trace : Trace watch h es h') {c : ClassRef} (live : h.classes.isLive c = true) :
    NearestLasts watch h h' c := by
  have closed := reached.closed
  have reached' := reached.trace trace
  have extended := trace.extends
  have above := closed.ancestry_live live
  refine ⟨closed.ancestry_later extended reached'.closed live, fun es name trace unwritten => ?_,
    fun rt v runtime there => extended.variant runtime there, ?_, ?_⟩
  · exact sameAnswers_of_own reached reached' extended live
      (fun k among => trace.sameOwn fun e member => unwritten e member k among)
      fun o unwritten => trace.sameOwn unwritten
  · intro k there other s among same
    rw [← (extended.klass (above s among)).prototype] at same
    have below := extended.classes.isLive (above s among)
    exact other (reached'.linked.distinct there below same ▸ among)
  · rintro k o there there' unbound rfl
    have bound := reached'.linked.bound k there
    rw [(extended.object there').boundClass, unbound] at bound
    cases bound

/-- What lasts of the answers over a run: whatever classes are defined under whatever names, and whatever
else is written, a name is seen alike while programs may write neither to the prototypes of the class
and its superclasses nor to the instance. -/
def AnswersLast (watch : Watch) (h h' : Heap) (c : ClassRef) : Prop :=
  (∀ later, h.Extends later → ∀ k ∈ h.ancestry c, ¬ watch.mayWrite later (h.klass k).prototype = true) →
    ∀ name, SameAnswers h h' c
      (fun o => ∀ later, h.Extends later → ¬ watch.mayWrite later o = true) name

theorem answersLast_of_passage {watch : Watch} {h h' : Heap} (reached : h.Reached watch)
    (passage : Passage watch h h') {c : ClassRef} (live : h.classes.isLive c = true) :
    AnswersLast watch h h' c := by
  intro unwritten name
  have kept : ∀ o, (∀ later, h.Extends later → ¬ watch.mayWrite later o = true) →
      Heap.SameOwn o name h h' := fun o unwritten live =>
    ⟨passage.extended.objects.isLive live,
      congrArg (fun t => t.get? name) (passage.properties_eq live unwritten)⟩
  exact sameAnswers_of_own reached (passage.reached reached) passage.extended live
    (fun k among => kept _ fun later extended => unwritten later extended k among) kept

/-- What a request leaves of the answers about a class and its instances, with calls nested at most `n`
deep. -/
structure AnswersKept {σ : Type} (watch : Watch) (n : Nat) (w : World σ) (c : ClassRef) : Prop where
  /-- A definition changes none of them, be it under a new name or one that is taken, whatever it extends
  and declares, -/
  definition : ∀ rt d r w', d.initializer = none →
    (Setting.within watch n).perform (.defineClass rt d) w = some (r, w') →
    ∀ name, SameAnswers w.heap w'.heap c (fun _ => True) name
  /-- nor does one in flat form. -/
  flat : ∀ rt own superclass entries annotations d r w',
    Definition.parse own superclass entries annotations
      (w.heap.runtime rt).options.staticMarker = .ok d → d.initializer = none →
    (Setting.within watch n).perform (.defineFlat rt own superclass entries annotations) w =
      some (r, w') →
    ∀ name, SameAnswers w.heap w'.heap c (fun _ => True) name
  /-- A request that writes changes them only where it writes the name itself, on the class, a superclass
  or the instance. -/
  written : ∀ q e r w', q.write? w.heap = some e →
    (Setting.within watch n).perform q w = some (r, w') →
    ∀ name, (∀ k ∈ w.heap.ancestry c, ¬ e.Writes (w.heap.klass k).prototype name) →
      SameAnswers w.heap w'.heap c (fun o => ¬ e.Writes o name) name
  /-- Every other request, a definition with a static initializer among them, leaves them to the functions
  that it calls. -/
  called : ∀ q r w', q.write? w.heap = none →
    (Setting.within watch n).perform q w = some (r, w') →
    ∀ name calls, calls = ((Setting.within watch n).logging.perform q).callsMade w →
      (∀ call ∈ calls, ∀ k ∈ w.heap.ancestry c,
        Heap.SameOwn (w.heap.klass k).prototype name call.before.heap call.after.heap) →
      SameAnswers w.heap w'.heap c
        (fun o => ∀ call ∈ calls, Heap.SameOwn o name call.before.heap call.after.heap) name

/-- A definition without a static initializer touches no object that was there. -/
theorem Setting.untouched_defineClass {σ : Type} {s : Setting σ} {w w' : World σ} {rt : RuntimeRef}
    {d : Definition} {r : Except Error ClassRef} (plain : d.initializer = none)
    (run : s.defineClass rt d w = some (r, w')) : w.heap.Untouched w'.heap := by
  cases resolved : (w.heap.registryOf rt).resolve d.name d.superclass (w.heap.runtime rt).root with
  | error e =>
    rw [defineClass_of_unresolved resolved] at run
    cases run
    exact .refl _
  | ok p =>
    rw [defineClass_of_resolved resolved, finishClass_of_none plain] at run
    cases run
    exact Event.untouched (e := .klass rt d p) rfl w.heap

theorem answersKept_of_reached {σ : Type} {watch : Watch} {w : World σ} (reached : Reached watch w)
    {c : ClassRef} (live : w.heap.classes.isLive c = true) (n : Nat) : AnswersKept watch n w c := by
  have closed := Heap.Reached.closed reached
  have later : ∀ {q : Request} {r : Except Error q.Answer} {w' : World σ},
      (Setting.within watch n).perform q w = some (r, w') →
      w'.heap.Reached watch ∧ w.heap.Extends w'.heap := by
    intro q r w' run
    have kept := (within_lawful watch n).perform reached q r w' run
    exact ⟨kept.holds, kept.leads.extended⟩
  refine ⟨fun rt d r w' plain run name => ?_,
    fun rt own superclass entries annotations d r w' parsed plain run name => ?_,
    fun q e r w' writes run name unwritten => ?_, fun q r w' silent run name calls made kept => ?_⟩
  · obtain ⟨reached', extended⟩ := later run
    exact sameAnswers_of_untouched reached reached' extended live
      (Setting.untouched_defineClass plain (Setting.perform_inv run).2.2) name
  · obtain ⟨reached', extended⟩ := later run
    have defined : (Setting.within watch n).defineFlat rt own superclass entries annotations w =
      some (r, w') := (Setting.perform_inv run).2.2
    rw [Setting.defineFlat_of_read parsed] at defined
    exact sameAnswers_of_untouched reached reached' extended live
      (Setting.untouched_defineClass plain defined) name
  · obtain ⟨reached', extended⟩ := later run
    obtain ⟨h, outside, left⟩ := Setting.perform_writes run writes
    have same : h.objects = w.heap.objects := outside.objects (by simp)
    have kept : ∀ o, ¬ e.Writes o name → Heap.SameOwn o name w.heap w'.heap := by
      intro o unwritten there
      have own : w'.heap.ownProperty o name = h.ownProperty o name := by
        rw [left, Event.ownProperty_eq (same ▸ there) unwritten]
      refine ⟨extended.objects.isLive there, own.trans ?_⟩
      rw [Heap.ownProperty, Heap.object, same, ← Heap.object, ← Heap.ownProperty]
    exact sameAnswers_of_own reached reached' extended live
      (fun k among => kept _ (unwritten k among)) kept
  · obtain ⟨reached', extended⟩ := later run
    have own : ∀ o, (∀ call ∈ calls, Heap.SameOwn o name call.before.heap call.after.heap) →
        Heap.SameOwn o name w.heap w'.heap :=
      fun o kept => Setting.perform_keeps closed run silent (fun _ _ same => same.sameOwn o name)
        (fun _ _ _ => .trans) (made ▸ kept)
    exact sameAnswers_of_own reached reached' extended live
      (fun k among => own _ fun call member => kept call member k among) own

/-- At every moment of a run the nearest definition along the superclasses wins, and what is defined or
written elsewhere does not change which one that is. -/
theorem nearest_definition_wins {σ : Type} (watch : Watch) (depth : Nat) (p : Program σ) (state : σ)
    (count : Nat) :
    (∀ m ∈ p.moments watch depth state count, ∀ c, m.heap.classes.isLive c = true →
        NearestWins m.toWorld c ∧ ∀ n, AnswersKept watch n m.toWorld c) ∧
      ((p.moments watch depth state count).Pairwise fun earlier later =>
        (∃ es, Trace watch earlier.heap es later.heap) ∧
          ∀ c, earlier.heap.classes.isLive c = true →
            NearestLasts watch earlier.heap later.heap c ∧
              AnswersLast watch earlier.heap later.heap c) ∧
      (∀ (τ : Type) (w : World τ) c, Reached watch w → w.heap.classes.isLive c = true →
        NearestWins w c ∧ ∀ n, AnswersKept watch n w c) ∧
      ∀ (w w' : World σ) es c, Reached watch w → Trace watch w.heap es w'.heap →
        w.heap.classes.isLive c = true → NearestLasts watch w.heap w'.heap c := by
  refine ⟨fun m member c live => ?_, ?_, fun τ w c reached live => ?_, ?_⟩
  · have reached : Reached watch m.toWorld := (Program.sound_of_mem_moments member).reached
    exact ⟨nearestWins_of_reached reached live, answersKept_of_reached reached live⟩
  · refine (Program.moments_pass watch depth p state count).imp_of_mem ?_
    intro earlier later member _ passes
    obtain ⟨es, trace⟩ := passes.trace
    have reached := (Program.sound_of_mem_moments member).reached
    exact ⟨⟨es, trace⟩, fun c live => ⟨nearestLasts_of_trace reached trace live,
      answersLast_of_passage reached passes.passage live⟩⟩
  · exact ⟨nearestWins_of_reached reached live, answersKept_of_reached reached live⟩
  · exact fun w w' es c reached trace live => nearestLasts_of_trace reached trace live

/-- Makes an instance of a class that inherits a member from its superclass. Then the superclass is
defined anew, with another value for the member, which is changed later, and a subclass that overrides
it. -/
def inheriting : Program Unit := Script.toProgram do
  let rt ← Script.ask (.newRuntime {})
  let _ ← Script.ask (.defineFlat rt "A" "" [("m", .integer 1)] none)
  let b ← Script.ask (.defineFlat rt "B" "A" [("n", .null)] none)
  let o ← Script.ask (.newObject (some ((← Script.heap).klass b).prototype) [])
  let a ← Script.ask (.defineFlat rt "A" "" [("m", .integer 2)] none)
  let _ ← Script.ask (.set ((← Script.heap).klass a).prototype "m" (.integer 3))
  let _ ← Script.ask (.defineFlat rt "C" "B" [("m", .integer 4)] none)
  return .object o

/-- The watch under which programs write only to what was made after the instance. -/
def guarding : Watch where
  mayWrite _ o := decide (15 ≤ o.id)

/-- The instance sees what it saw, and goes on to after its own class was defined anew. -/
theorem inheriting_keeps :
    ∃ earlier ∈ inheriting.moments guarding 2 () 30,
      ∃ later ∈ inheriting.moments guarding 2 () 30,
        earlier.heap.classNamed ⟨0⟩ "A" = some ⟨2⟩ ∧ later.heap.classNamed ⟨0⟩ "A" = some ⟨4⟩ ∧
        later.heap.classNamed ⟨0⟩ "C" = some ⟨5⟩ ∧
        earlier.heap.get ⟨14⟩ "m" = some (.integer 1) ∧
        later.heap.get ⟨14⟩ "m" = some (.integer 1) ∧
        ∃ b w', (Setting.within guarding 2).perform
            (.defineFlat ⟨0⟩ "B" "A" [("m", .integer 5)] none) later.toWorld = some (.ok b, w') ∧
          w'.heap.get ⟨14⟩ "m" = some (.integer 1) := by
  have start : ((inheriting.moments guarding 2 () 30)[5]?.any fun m =>
      m.heap.classes.isLive ⟨3⟩ && decide (m.heap.classNamed ⟨0⟩ "A" = some ⟨2⟩) &&
      decide ((m.heap.object ⟨14⟩).prototype = some (m.heap.klass ⟨3⟩).prototype) &&
      decide (m.heap.inherited ⟨3⟩ ⟨14⟩ "m" = some (.integer 1)) &&
      (m.heap.ancestry ⟨3⟩).all fun k => decide ((m.heap.klass k).prototype.id < 15)) = true := by
    decide +kernel
  have stop : ((inheriting.moments guarding 2 () 30)[9]?.any fun m =>
      m.heap.classes.isLive ⟨3⟩ && decide (m.heap.classNamed ⟨0⟩ "A" = some ⟨4⟩) &&
      decide (m.heap.classNamed ⟨0⟩ "C" = some ⟨5⟩) &&
      decide ((m.heap.runtime ⟨0⟩).options.staticMarker = '_') &&
      ((Setting.within guarding 2).perform (.defineFlat ⟨0⟩ "B" "A" [("m", .integer 5)] none)
        m.toWorld).any fun ended => ended.1.toOption.isSome) = true := by
    decide +kernel
  rw [Option.any_eq_true] at start stop
  obtain ⟨earlier, at_start, facts⟩ := start
  obtain ⟨later, at_stop, facts'⟩ := stop
  simp only [Bool.and_eq_true, decide_eq_true_iff] at facts facts'
  obtain ⟨⟨⟨⟨live, first⟩, link⟩, seen⟩, older⟩ := facts
  obtain ⟨⟨⟨⟨live', second⟩, overrides⟩, marker⟩, redefined⟩ := facts'
  obtain ⟨in_start, rfl⟩ := List.getElem?_eq_some_iff.1 at_start
  obtain ⟨in_stop, rfl⟩ := List.getElem?_eq_some_iff.1 at_stop
  obtain ⟨wins, lasts, _⟩ := nearest_definition_wins guarding 2 inheriting () 30
  have found := (((wins _ (List.getElem_mem in_start) ⟨3⟩ live).1).get ⟨14⟩ "m" link).trans seen
  have answers := ((List.pairwise_iff_getElem.1 lasts 5 9 in_start in_stop (by decide)).2 ⟨3⟩ live).2
  have unwritten : ∀ (h : Heap) (o : ObjectRef), o.id < 15 → ¬ guarding.mayWrite h o = true :=
    fun _ o older write => absurd (of_decide_eq_true write) (Nat.not_le.2 older)
  obtain ⟨link', still⟩ := (answers (fun h _ k among => unwritten h _
    (of_decide_eq_true (List.all_eq_true.1 older k among))) "m").get ⟨14⟩
    (fun h _ => unwritten h _ (by decide)) link
  obtain ⟨⟨r, w'⟩, run, ended⟩ := Option.any_eq_true _ _ |>.1 redefined
  cases r with
  | error e => cases ended
  | ok b =>
    have kept := ((wins _ (List.getElem_mem in_stop) ⟨3⟩ live').2 2).flat ⟨0⟩ "B" "A"
      [("m", .integer 5)] none _ _ w' (by rw [marker]; rfl) rfl run "m"
    exact ⟨_, List.getElem_mem in_start, _, List.getElem_mem in_stop, first, second, overrides, found,
      still.trans found, b, w', run, ((kept.get ⟨14⟩ trivial link').2.trans still).trans found⟩

end ProtoClass
