import Mathlib.Data.List.Basic
import ProtoClass.Proofs.Reflection
import ProtoClass.Proofs.Widening

set_option autoImplicit false

/- Which class an object belongs to is found anew with each question, along links that are set once and
never on an object that something delegates to. So it lasts, and with it everything that follows from
it: the superclasses, the descriptor, and of which classes the object is an instance. The registry has
no part in it. One answer may be wrong before the class has a descriptor: where the making of the
descriptor fails with the error that objects without a class give, the object is said to be an
instance of nothing. Where asking for the class of the object succeeds, the answer is right. -/
namespace ProtoClass

theorem findSome?_congr {α β : Type} {l : List α} {f g : α → Option β}
    (same : ∀ a ∈ l, f a = g a) : l.findSome? f = l.findSome? g := by
  rw [← List.head?_filterMap, ← List.head?_filterMap, List.filterMap_congr same]

namespace Heap

variable {h h' : Heap}

section Later

variable (closed : h.Closed) (extended : h.Extends h') (closed' : h'.Closed)
include closed extended closed'

theorem Closed.chain_later {o : ObjectRef} (live : h.objects.isLive o = true) :
    h'.chain o = h.chain o := by
  induction o using closed.prototype_induction with
  | step o ih =>
    have same := (extended.object live).prototype
    cases link : (h.object o).prototype with
    | none => rw [chain_of_none link, chain_of_none (same.trans link)]
    | some p =>
      rw [closed.chain_of_some link, closed'.chain_of_some (same.trans link),
        ih p link (closed.prototype_older link).2]

omit extended closed' in
theorem Closed.chain_live {o : ObjectRef} (live : h.objects.isLive o = true) :
    ∀ p ∈ h.chain o, h.objects.isLive p = true := by
  induction o using closed.prototype_induction with
  | step o ih =>
    cases link : (h.object o).prototype with
    | none =>
      rw [chain_of_none link]
      exact List.forall_mem_singleton.2 live
    | some p =>
      rw [closed.chain_of_some link]
      exact List.forall_mem_cons.2 ⟨live, ih p link (closed.prototype_older link).2⟩

/-- What is found along a chain stays the same, if each object on it keeps what is looked for. -/
theorem Closed.find_later {α : Type} {find find' : ObjectRef → Option α} {o : ObjectRef}
    (live : h.objects.isLive o = true) (kept : ∀ p ∈ h.chain o, find' p = find p) :
    (h'.chain o).findSome? find' = (h.chain o).findSome? find := by
  rw [closed.chain_later extended closed' live, findSome?_congr kept]

theorem Closed.owningClass_later {o : ObjectRef} (live : h.objects.isLive o = true) :
    h'.owningClass o = h.owningClass o :=
  closed.find_later extended closed' live fun p above =>
    (extended.object (closed.chain_live live p above)).boundClass

end Later

end Heap

/-- What lasts of the classes of objects, and of classes. -/
structure ClassesLast (h h' : Heap) : Prop where
  owningClass : ∀ o, h.objects.isLive o = true → h'.owningClass o = h.owningClass o
  ancestry : ∀ c, h.classes.isLive c = true → h'.ancestry c = h.ancestry c
  /-- A class keeps its cell, but for the descriptor that it may get. -/
  klass : ∀ c, h.classes.isLive c = true → (h.klass c).Becomes (h'.klass c)
  descriptor : ∀ d, h.descriptors.isLive d = true → h'.descriptor d = h.descriptor d
  instances : ∀ rt rt' c o, h.classes.isLive c = true → h.objects.isLive o = true →
    h'.isInstanceOf rt' c (.object o) = h.isInstanceOf rt c (.object o)

theorem Heap.Extends.classesLast {h h' : Heap} (extended : h.Extends h') (closed : h.Closed)
    (closed' : h'.Closed) : ClassesLast h h' where
  owningClass _ := closed.owningClass_later extended closed'
  ancestry _ := closed.ancestry_later extended closed'
  klass _ := extended.klass
  descriptor _ := extended.descriptor
  instances rt rt' c o live live' := by
    rw [Heap.isInstanceOf, Heap.isInstanceOf, closed.chain_later extended closed' live',
      (extended.klass live).prototype]

/-- Does the class of an object, if it has one, have a descriptor? -/
def Heap.ClassDescribed (h : Heap) (o : ObjectRef) : Prop :=
  ∀ k, h.owningClass o = some k → (h.klass k).descriptor ≠ none

theorem Heap.ClassDescribed.later {h h' : Heap} {o : ObjectRef} (described : h.ClassDescribed o)
    (extended : h.Extends h') (closed : h.Closed) (closed' : h'.Closed)
    (live : h.objects.isLive o = true) : h'.ClassDescribed o := by
  intro k owned
  rw [closed.owningClass_later extended closed' live] at owned
  obtain ⟨d, described⟩ := Option.ne_none_iff_exists'.1 (described k owned)
  rw [(extended.klass (closed.owningClass_live owned)).descriptor d described]
  exact Option.some_ne_none d

/-- Asking for the class of the object succeeds. -/
def Setting.FindsClass {σ : Type} (s : Setting σ) (rt : RuntimeRef) (o : ObjectRef) (w : World σ) :
    Prop :=
  ∃ d w', s.getClass rt (.object o) w = some (.ok d, w')

/-- What the question whether an object is an instance of a class is answered with, where asking for
the class of the object succeeds or does not. -/
structure InstanceAnswer (h : Heap) (c : ClassRef) (o : ObjectRef) (b : Bool) (classed : Prop)
    (h' : Heap) : Prop where
  /-- Only a negative answer may be wrong, and only where the class of the object has no descriptor
  and the making of one fails. -/
  decided : b = true ∨ h.ClassDescribed o ∨ classed → ∀ rt, b = h.isInstanceOf rt c (.object o)
  /-- After a positive answer it has one, and after a negative one if its making did not fail. -/
  described : b = true ∨ classed → h'.ClassDescribed o

section Asking

variable {σ : Type} {J : World σ → Prop} {s : Setting σ} {w w' : World σ} {rt : RuntimeRef}

/-- The descriptor of a class that has one is at hand. -/
theorem descriptorOf_of_described (s : Setting σ) {c : ClassRef} {d : DescriptorRef}
    (described : (w.heap.klass c).descriptor = some d) :
    s.descriptorOf rt c w = some (.ok d, w) := by
  unfold Setting.descriptorOf
  rw [Action.heap_bind_apply]
  cases (w.heap.ancestry c).tail <;>
  · unfold Setting.describeAlong
    rw [Action.heap_bind_apply, described]
    rfl

theorem instanceAnswer_of_isInstance (lawful : s.Lawful J) (holds : J w)
    (runtime : w.heap.runtimes.isLive rt = true) {d : DescriptorRef} {c : ClassRef}
    (described : (w.heap.klass c).descriptor = some d) {o : ObjectRef}
    (live : w.heap.objects.isLive o = true) {b : Bool}
    (run : s.isInstance rt d (.object o) w = some (.ok b, w')) :
    InstanceAnswer w.heap c o b (s.FindsClass rt o w) w'.heap := by
  have reached := lawful.stable.reached holds
  have closed := reached.closed
  have there := Heap.isLive_of_descriptor described
  have instances : ∀ rt, w.heap.isInstanceOf rt c (.object o) =
      (w.heap.owningClass o).any fun k => w.heap.isSubclassOf k c := fun rt =>
    reached.linked.isInstanceOf closed there (.object o)
  rcases Action.bind_inv run with ⟨e, _, wrong⟩ | ⟨outcome, w₁, attempted, finish⟩
  · cases wrong
  obtain ⟨⟨r, w₂⟩, got, same⟩ := Option.map_eq_some_iff.1 attempted
  cases same
  have kept := lawful.getClass holds runtime _ _ got
  cases outcome with
  | ok e =>
    cases finish
    obtain ⟨k, owned, described'⟩ := kept.answer e rfl
    have owned : w.heap.owningClass o = some k := owned
    have extended := kept.leads.extended
    have reached' := kept.leads.reached reached
    refine ⟨fun _ rt => ?_, fun _ k' owned' => ?_⟩
    · rw [instances, owned, Option.any_some, reached'.spineMirror.isAssignableFrom reached'.closed
        described' ((extended.klass there).descriptor d described), Heap.isSubclassOf,
        Heap.isSubclassOf,
        closed.ancestry_later extended reached'.closed (closed.owningClass_live owned)]
    · rw [closed.owningClass_later extended reached'.closed live, owned] at owned'
      cases owned'
      rw [described']
      exact Option.some_ne_none e
  | error e =>
    cases e with
    | noClass kind =>
      cases finish
      have failed : ¬s.FindsClass rt o w := by
        rintro ⟨e, w₃, classed⟩
        cases classed.symm.trans got
      refine ⟨fun known rt' => ?_, fun made => (failed (made.resolve_left Bool.false_ne_true)).elim⟩
      rw [instances]
      cases owned : w.heap.owningClass o with
      | none => rfl
      | some k =>
        have known := (known.resolve_left Bool.false_ne_true).resolve_right failed
        obtain ⟨e, described'⟩ := Option.ne_none_iff_exists'.1 (known k owned)
        have belongs : w.heap.classOf rt (.object o) = some k := owned
        exact (failed ⟨e, w, (getClass_apply s belongs).trans
          (descriptorOf_of_described s described')⟩).elim
    | _ => cases finish

end Asking

/-- What two answered requests about the same object have to do with each other, one answered before
the other. For each it is given for which objects asking for their class succeeded in its place. -/
structure ClassAnswersLast (a a' : Answered) (classed classed' : RuntimeRef → ObjectRef → Prop) :
    Prop where
  getClass : ∀ rt rt' o h h' d d', a = ⟨.getClass rt (.object o), h, .ok d⟩ →
    a' = ⟨.getClass rt' (.object o), h', .ok d'⟩ → d' = d
  isInstance : ∀ rt rt' o e h h' b b', a = ⟨.isInstance rt e (.object o), h, .ok b⟩ →
    a' = ⟨.isInstance rt' e (.object o), h', .ok b'⟩ →
    b = true ∨ h.ClassDescribed o ∨ classed rt o → b' = true ∨ h'.ClassDescribed o ∨ classed' rt' o →
      b' = b

/-- What an answered request and one that is made after it have to do with each other. -/
structure ClassAnswersFollow (a a' : Answered) (classed classed' : RuntimeRef → ObjectRef → Prop) : Prop
    extends ClassAnswersLast a a' classed classed' where
  /-- A positive answer stays, and so does a negative one of an object whose class had a descriptor or
  got it. -/
  follow : ∀ rt rt' o e h h' b b', a = ⟨.isInstance rt e (.object o), h, .ok b⟩ →
    a' = ⟨.isInstance rt' e (.object o), h', .ok b'⟩ →
    b = true ∨ h.ClassDescribed o ∨ classed rt o → b' = b

theorem ClassAnswersFollow.of_classed {a a' : Answered}
    {classed classed' known known' : RuntimeRef → ObjectRef → Prop}
    (answers : ClassAnswersFollow a a' classed classed') (first : ∀ rt o, known rt o → classed rt o)
    (second : ∀ rt o, known' rt o → classed' rt o) : ClassAnswersFollow a a' known known' where
  getClass := answers.getClass
  isInstance rt rt' o e h h' b b' asked asked' said said' :=
    answers.isInstance rt rt' o e h h' b b' asked asked' (said.imp_right (Or.imp_right (first rt o)))
      (said'.imp_right (Or.imp_right (second rt' o)))
  follow rt rt' o e h h' b b' asked asked' said :=
    answers.follow rt rt' o e h h' b b' asked asked' (said.imp_right (Or.imp_right (first rt o)))

namespace Answered

variable {watch : Watch} {h h' : Heap} {a a' : Answered}

/-- Was the request served so, in a place where asking for the class of the object succeeds? -/
def Classed (watch : Watch) (h : Heap) (a : Answered) (rt : RuntimeRef) (o : ObjectRef) : Prop :=
  ∃ (τ : Type) (s : Setting τ) (J : World τ → Prop) (w w' : World τ), s.watch = watch ∧
    s.Lawful J ∧ J w ∧ w.heap = a.before ∧ w'.heap = h ∧
    s.perform a.request w = some (a.answer, w') ∧ s.FindsClass rt o w

theorem Served.instanceAnswer {rt : RuntimeRef} {e : DescriptorRef} {o : ObjectRef} {before : Heap}
    {b : Bool} (served : Served watch h ⟨.isInstance rt e (.object o), before, .ok b⟩) :
    before.Closed ∧ before.objects.isLive o = true ∧
      ∃ c, (before.klass c).descriptor = some e ∧
        InstanceAnswer before c o b
          (Classed watch h ⟨.isInstance rt e (.object o), before, .ok b⟩ rt o) h := by
  obtain ⟨τ, s, J, w, w', _, lawful, holds, rfl, rfl, run⟩ := served
  obtain ⟨live, _, asked⟩ := Setting.perform_inv run
  simp only [Request.isLive, Bool.and_eq_true] at live
  have reached := lawful.stable.reached holds
  obtain ⟨c, described⟩ := reached.spineMirror.described e live.1.2
  have answer := instanceAnswer_of_isInstance lawful holds live.1.1 described live.2 asked
  -- another place in which the request is served so has an answer of its own, to the same question
  have elsewhere : Classed watch w'.heap ⟨.isInstance rt e (.object o), w.heap, .ok b⟩ rt o →
      InstanceAnswer w.heap c o b True w'.heap := by
    rintro ⟨τ', s', J', v, v', _, lawful', holds', (before : v.heap = w.heap), left, run', classed⟩
    obtain ⟨_, _, asked'⟩ := Setting.perform_inv run'
    rw [← before] at live described ⊢
    have answer' := instanceAnswer_of_isInstance lawful' holds' live.1.1 described live.2 asked'
    rw [← left]
    exact ⟨fun _ => answer'.decided (Or.inr (Or.inr classed)),
      fun _ => answer'.described (Or.inr classed)⟩
  refine ⟨reached.closed, live.2, c, described, ?_, ?_⟩
  · rintro (yes | known | classed)
    · exact answer.decided (Or.inl yes)
    · exact answer.decided (Or.inr (Or.inl known))
    · exact (elsewhere classed).decided (Or.inr (Or.inr trivial))
  · rintro (yes | classed)
    · exact answer.described (Or.inl yes)
    · exact (elsewhere classed).described (Or.inr trivial)

theorem Served.gotClass {rt : RuntimeRef} {o : ObjectRef} {before : Heap} {d : DescriptorRef}
    (served : Served watch h ⟨.getClass rt (.object o), before, .ok d⟩) :
    before.Closed ∧ before.objects.isLive o = true ∧
      ∃ k, before.owningClass o = some k ∧ (h.klass k).descriptor = some d := by
  obtain ⟨τ, s, J, w, w', _, lawful, holds, rfl, rfl, run⟩ := served
  have live := (Setting.perform_inv run).1
  simp only [Request.isLive, Bool.and_eq_true] at live
  exact ⟨(lawful.stable.reached holds).closed, live.2, lawful.perform_meets holds run d rfl⟩

theorem Served.reached (served : a.Served watch h) : h.Reached watch := by
  obtain ⟨τ, s, J, w, w', rfl, lawful, holds, before, rfl, run⟩ := served
  exact lawful.stable.reached (lawful.perform holds a.request a.answer w' run).holds

theorem Served.classAnswersLast (served : a.Served watch h) (served' : a'.Served watch h')
    (later : h.Extends h') :
    ClassAnswersLast a a' (a.Classed watch h) (a'.Classed watch h') := by
  have extended := served.extends.trans later
  have extended' := served'.extends
  have reached' := served'.reached
  constructor
  · rintro rt rt' o before before' d d' rfl rfl
    obtain ⟨closed, live, k, owned, described⟩ := served.gotClass
    obtain ⟨closed', live', k', owned', described'⟩ := served'.gotClass
    rw [← closed.owningClass_later extended reached'.closed live] at owned
    rw [← closed'.owningClass_later extended' reached'.closed live'] at owned'
    obtain rfl := Option.some.inj (owned'.symm.trans owned)
    have kept := (later.klass (Heap.isLive_of_descriptor described)).descriptor d described
    exact Option.some.inj (described'.symm.trans kept)
  · rintro rt rt' o e before before' b b' rfl rfl known known'
    obtain ⟨closed, live, c, described, answer⟩ := served.instanceAnswer
    obtain ⟨closed', live', c', described', answer'⟩ := served'.instanceAnswer
    have there := Heap.isLive_of_descriptor described
    have there' := Heap.isLive_of_descriptor described'
    obtain rfl := reached'.spineMirror.distinct c c' e ((extended.klass there).descriptor e described)
      ((extended'.klass there').descriptor e described')
    have lasts := (extended.classesLast closed reached'.closed).instances rt rt c o there live
    have lasts' := (extended'.classesLast closed' reached'.closed).instances rt rt c o there' live'
    rw [answer.decided known rt, answer'.decided known' rt, ← lasts, lasts']

theorem Served.classAnswersFollow (served : a.Served watch h) (served' : a'.Served watch h')
    (after : h.Extends a'.before) :
    ClassAnswersFollow a a' (a.Classed watch h) (a'.Classed watch h') := by
  have last := served.classAnswersLast served' (after.trans served'.extends)
  refine ⟨last, ?_⟩
  rintro rt rt' o e before before' b b' rfl rfl known
  obtain ⟨closed, live, c, described, answer⟩ := served.instanceAnswer
  obtain ⟨closed', _⟩ := served'.instanceAnswer
  refine last.isInstance rt rt' o e before before' b b' rfl rfl known (Or.inr (Or.inl ?_))
  have left : b = true ∨ Classed watch h ⟨.isInstance rt e (.object o), before, .ok b⟩ rt o →
      before'.ClassDescribed o := fun made =>
    (answer.described made).later after served.reached.closed closed'
      (served.extends.objects.isLive live)
  rcases known with yes | known | classed
  · exact left (Or.inl yes)
  · exact known.later (served.extends.trans after) closed closed' live
  · exact left (Or.inr classed)

end Answered

/-- The class of an object, its superclasses and the cells of classes are the same at all later
moments of a run, and so are the answers that depend on nothing else. -/
theorem classes_are_permanent {σ : Type} (watch : Watch) (depth : Nat) (p : Program σ) (state : σ)
    (count : Nat) :
    ((p.moments watch depth state count).Pairwise fun earlier later =>
        ClassesLast earlier.heap later.heap ∧
          ∀ a a', earlier.answered = some a → later.answered = some a' →
            ClassAnswersLast a a' (a.Classed watch earlier.heap) (a'.Classed watch later.heap)) ∧
      (∀ (w w' : World σ) es, Reached watch w → Trace watch w.heap es w'.heap →
        ClassesLast w.heap w'.heap) ∧
      ∀ (w₁ w₁' w₂ w₂' : World σ) es n n' q q' r r', Reached watch w₁ →
        (Setting.within watch n).perform q w₁ = some (r, w₁') →
        Trace watch w₁'.heap es w₂.heap →
        (Setting.within watch n').perform q' w₂ = some (r', w₂') →
        ClassAnswersFollow ⟨q, w₁.heap, r⟩ ⟨q', w₂.heap, r'⟩
          (fun rt o => (Setting.within watch n).FindsClass rt o w₁)
          fun rt o => (Setting.within watch n').FindsClass rt o w₂ := by
  refine ⟨?_, ?_, ?_⟩
  · refine (Program.moments_ordered watch depth p state count).imp_of_mem ?_
    rintro earlier later member member' ⟨es, trace⟩
    have sound := Program.sound_of_mem_moments member
    have sound' := Program.sound_of_mem_moments member'
    refine ⟨trace.extends.classesLast sound.reached.closed sound'.reached.closed, ?_⟩
    intro a a' answered answered'
    exact (sound.known a answered).served.classAnswersLast (sound'.known a' answered').served
      trace.extends
  · intro w w' es reached trace
    have reached : w.heap.Reached watch := reached
    exact trace.extends.classesLast reached.closed (reached.trace trace).closed
  · intro w₁ w₁' w₂ w₂' es n n' q q' r r' reached run trace run'
    have lawful := within_lawful (σ := σ) watch
    have served : Answered.Served watch w₁'.heap ⟨q, w₁.heap, r⟩ :=
      ⟨σ, _, _, w₁, w₁', rfl, lawful n, reached, rfl, rfl, run⟩
    have served' : Answered.Served watch w₂'.heap ⟨q', w₂.heap, r'⟩ :=
      ⟨σ, _, _, w₂, w₂', rfl, lawful n', Heap.Reached.trace served.reached trace, rfl, rfl, run'⟩
    refine (served.classAnswersFollow served' trace.extends).of_classed ?_ ?_
    · exact fun rt o classed => ⟨σ, _, _, w₁, w₁', rfl, lawful n, reached, rfl, rfl, run, classed⟩
    · exact fun rt o classed => ⟨σ, _, _, w₂, w₂', rfl, lawful n',
        Heap.Reached.trace served.reached trace, rfl, rfl, run', classed⟩

/-- Asks whether an object is an instance of the superclass of its class, before its class has a
descriptor and while the constructor of descriptor objects fails with the error that objects without a
class give; and again when the constructor is as it was. -/
def misjudging : Program Unit := Script.toProgram do
  let rt ← Script.ask (.newRuntime {})
  let a ← Script.ask (.defineClass rt { name := "A" })
  let b ← Script.ask (.defineClass rt { name := "B", superclass := "A" })
  let o ← Script.ask (.newObject (some ((← Script.heap).klass b).prototype) [])
  let d ← Script.ask (.descriptorOf rt a)
  let constructor := (← Script.heap).getOwn ⟨5⟩ "$0"
  let failing ← Script.newFunction "$0" fun rt _ _ => Script.toProgram do
    let _ ← Script.ask (.getClass rt .null)
    return .undefined
  let _ ← Script.ask (.set ⟨5⟩ "$0" (.function failing))
  let _ ← Script.ask (.isInstance rt d (.object o))
  let _ ← Script.ask (.set ⟨5⟩ "$0" (constructor.getD .undefined))
  let _ ← Script.ask (.isInstance rt d (.object o))
  let _ ← Script.ask (.defineClass rt { name := "B" })
  let _ ← Script.ask (.isInstance rt d (.object o))
  return .object o

/-- What was asked and said, where the question was whether a value is an instance. -/
def Answered.instance? : Answered → Option (RuntimeRef × DescriptorRef × Value × Bool)
  | ⟨.isInstance rt d v, _, .ok b⟩ => some (rt, d, v, b)
  | _ => none

theorem Answered.eq_of_instance? {a : Answered} {rt : RuntimeRef} {d : DescriptorRef} {v : Value}
    {b : Bool} (said : a.instance? = some (rt, d, v, b)) :
    a = ⟨.isInstance rt d v, a.before, .ok b⟩ := by
  unfold instance? at said
  split at said
  · cases said
    rfl
  · cases said

/-- Once the class has a descriptor, the answer stays, and so does the class of the object, also after
another class was defined under its name. -/
theorem misjudging_keeps :
    ∃ earlier ∈ misjudging.moments {} 2 () 60, ∃ later ∈ misjudging.moments {} 2 () 60,
      earlier.heap.classNamed ⟨0⟩ "B" = some ⟨3⟩ ∧ later.heap.classNamed ⟨0⟩ "B" = some ⟨4⟩ ∧
      later.heap.owningClass ⟨14⟩ = some ⟨3⟩ ∧ ∃ before before' b,
        earlier.answered = some ⟨.isInstance ⟨0⟩ ⟨1⟩ (.object ⟨14⟩), before, .ok true⟩ ∧
        later.answered = some ⟨.isInstance ⟨0⟩ ⟨1⟩ (.object ⟨14⟩), before', .ok b⟩ ∧ b = true := by
  have moment : ∀ (k : Nat) (c : ClassRef) (P : Heap → Bool → Bool),
      ((misjudging.moments {} 2 () 60)[k]?.any fun m =>
        decide (m.heap.classNamed ⟨0⟩ "B" = some c) && m.heap.objects.isLive ⟨14⟩ &&
        decide (m.heap.owningClass ⟨14⟩ = some ⟨3⟩) &&
        m.answered.any fun a => a.instance?.any fun said => P a.before said.2.2.2 &&
          decide ((said.1, said.2.1, said.2.2.1) = (⟨0⟩, ⟨1⟩, .object ⟨14⟩))) = true →
      ∃ m, (misjudging.moments {} 2 () 60)[k]? = some m ∧ m.heap.classNamed ⟨0⟩ "B" = some c ∧
        m.heap.objects.isLive ⟨14⟩ = true ∧ m.heap.owningClass ⟨14⟩ = some ⟨3⟩ ∧
        ∃ before b, P before b = true ∧
          m.answered = some ⟨.isInstance ⟨0⟩ ⟨1⟩ (.object ⟨14⟩), before, .ok b⟩ := by
    intro k c P facts
    rw [Option.any_eq_true] at facts
    obtain ⟨m, at_k, facts⟩ := facts
    simp only [Bool.and_eq_true, decide_eq_true_iff, Option.any_eq_true] at facts
    obtain ⟨⟨⟨registered, live⟩, owned⟩, a, answered, ⟨rt, d, v, b⟩, said, holds, same⟩ := facts
    cases same
    rw [Answered.eq_of_instance? said] at answered
    exact ⟨m, at_k, registered, live, owned, a.before, b, holds, answered⟩
  obtain ⟨earlier, at_first, registered, live, owned, before, _, rfl, answered⟩ :=
    moment 14 ⟨3⟩ (fun _ b => b) (by decide +kernel)
  obtain ⟨later, at_second, registered', _, _, before', b, known, answered'⟩ :=
    moment 16 ⟨4⟩ (fun h _ => decide (h.owningClass ⟨14⟩ = some ⟨3⟩) &&
      (h.klass ⟨3⟩).descriptor.isSome) (by decide +kernel)
  rw [Bool.and_eq_true, decide_eq_true_iff] at known
  have described : before'.ClassDescribed ⟨14⟩ := by
    intro k owned'
    cases known.1.symm.trans owned'
    exact Option.isSome_iff_ne_none.1 known.2
  obtain ⟨first, rfl⟩ := List.getElem?_eq_some_iff.1 at_first
  obtain ⟨second, rfl⟩ := List.getElem?_eq_some_iff.1 at_second
  obtain ⟨last, answers⟩ := List.pairwise_iff_getElem.1
    (classes_are_permanent {} 2 misjudging () 60).1 14 16 first second (by decide)
  refine ⟨_, List.getElem_mem first, _, List.getElem_mem second, registered, registered',
    (last.owningClass ⟨14⟩ live).trans owned, before, before', b, answered, answered', ?_⟩
  exact (answers _ _ answered answered').isInstance _ _ _ _ _ _ _ _ rfl rfl (Or.inl rfl)
    (Or.inr (Or.inl described))

/-- The same question about the same object is first answered with no and later with yes. -/
theorem misjudging_changes_answer :
    ∃ (i j : Nat) (earlier later : Moment Unit) (before before' : Heap), i < j ∧
      (misjudging.moments {} 2 () 60)[i]? = some earlier ∧
      (misjudging.moments {} 2 () 60)[j]? = some later ∧
      earlier.answered = some ⟨.isInstance ⟨0⟩ ⟨1⟩ (.object ⟨14⟩), before, .ok false⟩ ∧
      later.answered = some ⟨.isInstance ⟨0⟩ ⟨1⟩ (.object ⟨14⟩), before', .ok true⟩ := by
  have said : ∀ (k : Nat) (b : Bool), ((misjudging.moments {} 2 () 60)[k]?.any fun m =>
      decide (m.answered.bind Answered.instance? = some (⟨0⟩, ⟨1⟩, .object ⟨14⟩, b))) = true →
      ∃ m before, (misjudging.moments {} 2 () 60)[k]? = some m ∧
        m.answered = some ⟨.isInstance ⟨0⟩ ⟨1⟩ (.object ⟨14⟩), before, .ok b⟩ := by
    intro k b facts
    rw [Option.any_eq_true] at facts
    obtain ⟨m, at_k, said⟩ := facts
    obtain ⟨a, answered, said⟩ := Option.bind_eq_some_iff.1 (of_decide_eq_true said)
    rw [Answered.eq_of_instance? said] at answered
    exact ⟨m, a.before, at_k, answered⟩
  obtain ⟨earlier, before, at_first, answered⟩ := said 12 false (by decide +kernel)
  obtain ⟨later, before', at_second, answered'⟩ := said 14 true (by decide +kernel)
  exact ⟨12, 14, earlier, later, before, before', by decide, at_first, at_second, answered, answered'⟩

end ProtoClass
