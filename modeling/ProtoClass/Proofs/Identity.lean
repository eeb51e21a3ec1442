import ProtoClass.Proofs.Courses
import ProtoClass.Proofs.Ledger
import ProtoClass.Proofs.Moment

set_option autoImplicit false

namespace ProtoClass

/-- How the identities are spread over a heap, and what any request would do to them. -/
structure Ledger (h : Heap) : Prop where
  /-- The numbers that a counter handed out are the ones below what it has issued, each held by one
  slot. -/
  order : ∀ k, ∃ slots, HandsOut h k slots
  unique : ∀ x y id, h.kept x = some id → h.kept y = some id → x = y
  request : ∀ k x, h.counters.isLive k = true → h.hasIdentified x = true →
    Requested h k (h.slot x) (Update.identityOf k x h).1 (Update.identityOf k x h).2
  /-- A first request puts the slot at the end of what the counter that was asked handed out. -/
  first : ∀ k x slots, h.counters.isLive k = true → h.hasIdentified x = true →
    h.kept (h.slot x) = none → h.issued k ≠ Int32.maxValue → HandsOut h k slots →
    HandsOut (Update.identityOf k x h).2 k (slots ++ [h.slot x])

/-- What an earlier heap says of identities goes on to hold in a later one. -/
structure LedgerGrows (h h' : Heap) : Prop where
  kept : ∀ x id, h.kept x = some id → h'.kept x = some id
  slot : ∀ x, h.hasIdentified x = true → h'.slot x = h.slot x
  order : ∀ k slots slots', HandsOut h k slots → HandsOut h' k slots' → slots <+: slots'

theorem HandsOut.holder_unique {h : Heap} {k : CounterRef} {slots : List Slot}
    (out : HandsOut h k slots) {x y : Slot} {n : Int32} (held : h.kept x = some ⟨k, n⟩)
    (held' : h.kept y = some ⟨k, n⟩) : x = y := by
  obtain ⟨i, number, at_i⟩ := (out.kept x n).1 held
  obtain ⟨j, number', at_j⟩ := (out.kept y n).1 held'
  have same : i = j := by omega
  rw [same, at_j] at at_i
  exact (Option.some.inj at_i).symm

theorem Heap.Reached.ledger {watch : Watch} {h : Heap} (reached : h.Reached watch) : Ledger h := by
  have closed := reached.closed
  refine ⟨reached.handsOut, ?_, fun k x live => requested_identityOf closed live, ?_⟩
  · intro x y id held held'
    obtain ⟨slots, out⟩ := reached.handsOut id.issuer
    exact out.holder_unique held held'
  · intro k x slots live there empty more out
    exact out.request (requested_identityOf closed live there) empty more

theorem Heap.Extends.slot {h h' : Heap} (extended : h.Extends h') {x : Identified}
    (there : h.hasIdentified x = true) : h'.slot x = h.slot x := by
  cases x with
  | object o => rfl
  | function f => rfl
  | klass c => exact congrArg Slot.object (extended.klass there).statics

theorem Trace.ledgerGrows {watch : Watch} {h h' : Heap} {es : List Event}
    (trace : Trace watch h es h') (closed : h.Closed) : LedgerGrows h h' where
  kept _ _ := trace.extends.kept
  slot _ := trace.extends.slot
  order _ _ _ := trace.handsOut_prefix closed

section HashCodes

variable {σ : Type}

/-- The built-in hash code of what has an identity is that, by the counter of the runtime. -/
theorem objectHashCode_apply (rt : RuntimeRef) (x : Identified) (w : World σ) :
    Setting.objectHashCode rt x.value w =
      some ((Update.identityOf (w.heap.runtime rt).counter x w.heap).1.map .integer,
        { w with heap := (Update.identityOf (w.heap.runtime rt).counter x w.heap).2 }) := by
  have asked : ∀ (u : Update (Except Error Int32)),
      (do return Value.integer (← Action.tryUpdate u) : Action σ Value) w =
        some ((u w.heap).1.map .integer, { w with heap := (u w.heap).2 }) := by
    intro u
    cases answer : (u w.heap).1 with
    | error e =>
      have failed : (Action.tryUpdate u : Action σ Int32) w =
          some (.error e, { w with heap := (u w.heap).2 }) := by
        rw [Action.tryUpdate, answer]
      exact Action.bind_of_error failed
    | ok n =>
      have done : (Action.tryUpdate u : Action σ Int32) w =
          some (.ok n, { w with heap := (u w.heap).2 }) := by
        rw [Action.tryUpdate, answer]
      exact Action.bind_of_ok done
  unfold Setting.objectHashCode
  rw [Action.heap_bind_apply]
  cases x <;> exact asked _

/-- A call of the built-in hash code of what has an identity is a request through the counter of the
runtime. -/
theorem call_objectHashCode {watch : Watch} (n : Nat) {w : World σ} (reached : Reached watch w)
    {f : FunctionRef} {rt : RuntimeRef} {x : Identified}
    (code : (w.heap.function f).code = .builtin .objectHashCode)
    (live : w.heap.runtimes.isLive rt = true) (there : w.heap.hasIdentified x = true)
    (args : List Value) :
    ∃ answer w', (Setting.within watch (n + 1)).call f rt x.value args w =
        some (answer.map .integer, w') ∧
      Requested w.heap (w.heap.runtime rt).counter (w.heap.slot x) answer w'.heap := by
  have closed := Heap.Reached.closed reached
  refine ⟨_, _, (call_builtin code _ _ _).trans (objectHashCode_apply rt x w), ?_⟩
  exact requested_identityOf closed (closed.runtime live).counter there

end HashCodes

/-- Which steps have a part in the ledger, whatever the setting. -/
structure LedgerFrame {σ : Type} (s : Setting σ) : Prop where
  /-- What is asked for but an identity leaves the ledger alone, before and after each of the calls that
  it makes, -/
  request : ∀ q (w w' : World σ) r, (∀ k x, q ≠ .identityOf k x) → s.perform q w = some (r, w') →
    s.logging.perform q (w.logged []) =
        some (r, w'.logged ((s.logging.perform q).callsMade w)) ∧
      (∀ c ∈ (s.logging.perform q).callsMade w, s.Calls c) ∧
      Between SameLedger w.heap ((s.logging.perform q).callsMade w) w'.heap
  /-- so it leaves the ledger alone if those calls do. -/
  spared : ∀ q (w w' : World σ) r, (∀ k x, q ≠ .identityOf k x) → s.perform q w = some (r, w') →
    (∀ c ∈ (s.logging.perform q).callsMade w, SameLedger c.before.heap c.after.heap) →
    SameLedger w.heap w'.heap
  /-- It is the same with built-in functions, but for the hash code of what has an identity, -/
  builtin : ∀ b rt this args (w w' : World σ) r,
    (b = .objectHashCode → ∀ x : Identified, this ≠ x.value) →
    s.runBuiltin b rt this args w = some (r, w') →
    (∀ c ∈ (s.logging.runBuiltin b rt this args).callsMade w,
      SameLedger c.before.heap c.after.heap) →
    SameLedger w.heap w'.heap
  /-- which is a request to the counter of the runtime. -/
  hashCode : ∀ rt (x : Identified) args (w : World σ),
    s.runBuiltin .objectHashCode rt x.value args w =
      some ((Update.identityOf (w.heap.runtime rt).counter x w.heap).1.map .integer,
        { w with heap := (Update.identityOf (w.heap.runtime rt).counter x w.heap).2 })
  /-- A program leaves the ledger alone if its requests do. -/
  program : ∀ p (w w' : World σ) r, s.run p w = some (r, w') →
    (∀ a, s.Performs p w a → SameLedger a.before.heap a.after.heap) → SameLedger w.heap w'.heap

theorem ledgerFrame {σ : Type} (s : Setting σ) : LedgerFrame s := by
  have trans : ∀ h₁ h₂ h₃, SameLedger h₁ h₂ → SameLedger h₂ h₃ → SameLedger h₁ h₃ :=
    fun _ _ _ => SameLedger.trans
  have request : ∀ q (w w' : World σ) r, (∀ k x, q ≠ .identityOf k x) →
      s.perform q w = some (r, w') →
      Between SameLedger w.heap ((s.logging.perform q).callsMade w) w'.heap :=
    fun q w w' r other run => (s.perform_course run).keeps SameLedger.refl trans fun h e makes =>
      Event.sameLedger (makes.not_isIdentity other) h
  refine ⟨fun q w w' r other run => ?_, fun q w w' r other run => ?_,
    fun b rt this args w w' r other run => ?_, fun rt x args w => objectHashCode_apply rt x w,
    fun p w w' r => ?_⟩
  · have course := s.perform_course run
    exact ⟨course.outcome, course.calls, request q w w' r other run⟩
  · exact (request q w w' r other run).across trans
  · have between := (s.runBuiltin_course run).keeps SameLedger.refl trans fun h e makes =>
      Event.sameLedger (makes.not_isIdentity other) h
    exact between.across trans
  · exact Setting.run_across SameLedger.refl trans fun h name i =>
      Event.sameLedger (e := .function name (.program i)) id h

/-- The calls that come to a request for an identity, be it that they ask for one themselves or that
they make a call which does, with calls nested at most `n` deep. -/
inductive Draws {σ : Type} (watch : Watch) : Nat → CallDone σ → Prop where
  | hashCode {n : Nat} {c : CallDone σ} {x : Identified}
      (code : (c.before.heap.function c.function).code = .builtin .objectHashCode)
      (this : c.this = x.value) : Draws watch (n + 1) c
  | builtin {n : Nat} {c c' : CallDone σ} {b : Builtin}
      (code : (c.before.heap.function c.function).code = .builtin b)
      (called : c' ∈ ((Setting.within watch n).logging.runBuiltin b c.runtime c.this c.args).callsMade
        c.before)
      (draws : Draws watch n c') : Draws watch (n + 1) c
  | asked {n i : Nat} {c : CallDone σ} {body : Body σ} {a : Performed σ} {k : CounterRef}
      {x : Identified} (code : (c.before.heap.function c.function).code = .program i)
      (stored : c.before.bodies[i]? = some body)
      (performs : (Setting.within watch n).Performs (body c.runtime c.this c.args) c.before a)
      (identity : a.request = .identityOf k x) : Draws watch (n + 1) c
  | program {n i : Nat} {c c' : CallDone σ} {body : Body σ} {a : Performed σ}
      (code : (c.before.heap.function c.function).code = .program i)
      (stored : c.before.bodies[i]? = some body)
      (performs : (Setting.within watch n).Performs (body c.runtime c.this c.args) c.before a)
      (called : c' ∈ ((Setting.within watch n).logging.perform a.request).callsMade a.before)
      (draws : Draws watch n c') : Draws watch (n + 1) c

/-- A call that comes to no request for an identity leaves the ledger alone. -/
theorem sameLedger_of_call {σ : Type} {watch : Watch} {n : Nat} {c : CallDone σ}
    (called : (Setting.within watch n).Calls c) (quiet : ¬ Draws watch n c) :
    SameLedger c.before.heap c.after.heap := by
  induction n generalizing c with
  | zero => cases called
  | succ n ih =>
    have frame := ledgerFrame (Setting.within (σ := σ) watch n)
    unfold Setting.Calls at called
    simp only [Setting.within, callWithin] at called
    split at called
    · next b code =>
      refine frame.builtin b _ _ _ _ _ _ ?_ called fun c' among => ?_
      · rintro rfl x same
        exact quiet (.hashCode code same)
      · exact ih ((Setting.runBuiltin_course _ called).calls c' among) fun draws =>
          quiet (.builtin code among draws)
    · next i code =>
      split at called
      · next body stored =>
        refine frame.program _ _ _ _ called fun a performs => ?_
        refine frame.spared _ _ _ _ ?_ performs.served fun c' among => ?_
        · exact fun k x identity => quiet (.asked code stored performs identity)
        · exact ih ((Setting.perform_course _ performs.served).calls c' among) fun draws =>
            quiet (.program code stored performs among draws)
      · cases called

/-- What leaves the ledger alone, with calls nested at most `n` deep. -/
structure LedgerSpared (σ : Type) (watch : Watch) (n : Nat) : Prop where
  call : ∀ c : CallDone σ, (Setting.within watch n).Calls c → ¬ Draws watch n c →
    SameLedger c.before.heap c.after.heap
  request : ∀ q (w w' : World σ) r, (∀ k x, q ≠ .identityOf k x) →
    (Setting.within watch n).perform q w = some (r, w') →
    (∀ c ∈ ((Setting.within watch n).logging.perform q).callsMade w, ¬ Draws watch n c) →
    SameLedger w.heap w'.heap
  program : ∀ p (w w' : World σ) r, (Setting.within watch n).run p w = some (r, w') →
    (∀ a, (Setting.within watch n).Performs p w a → (∀ k x, a.request ≠ .identityOf k x) ∧
      ∀ c ∈ ((Setting.within watch n).logging.perform a.request).callsMade a.before,
        ¬ Draws watch n c) →
    SameLedger w.heap w'.heap
  /-- The hash code of what has an identity is a request to the counter of the runtime. -/
  hashCode : ∀ f rt x args (w : World σ), Reached watch w →
    (w.heap.function f).code = .builtin .objectHashCode → w.heap.runtimes.isLive rt = true →
    w.heap.hasIdentified x = true →
    ∃ answer w', (Setting.within watch (n + 1)).call f rt x.value args w =
        some (answer.map .integer, w') ∧
      Requested w.heap (w.heap.runtime rt).counter (w.heap.slot x) answer w'.heap

theorem ledgerSpared (σ : Type) (watch : Watch) (n : Nat) : LedgerSpared σ watch n := by
  have frame := ledgerFrame (Setting.within (σ := σ) watch n)
  have request : ∀ q (w w' : World σ) r, (∀ k x, q ≠ .identityOf k x) →
      (Setting.within watch n).perform q w = some (r, w') →
      (∀ c ∈ ((Setting.within watch n).logging.perform q).callsMade w, ¬ Draws watch n c) →
      SameLedger w.heap w'.heap :=
    fun q w w' r other run quiet => frame.spared q w w' r other run fun c among =>
      sameLedger_of_call ((Setting.perform_course _ run).calls c among) (quiet c among)
  refine ⟨fun c => sameLedger_of_call, request, fun p w w' r run quiet => ?_,
    fun f rt x args w reached code live there => call_objectHashCode n reached code live there args⟩
  refine frame.program p w w' r run fun a performs => ?_
  obtain ⟨other, calls⟩ := quiet a performs
  exact request _ _ _ _ other performs.served calls

/-- At every moment of a run the values that each counter handed out are the first ones, each held by
one slot, in the order of the first requests; and a slot keeps what it holds for ever. -/
theorem identities_in_order {σ : Type} (watch : Watch) (depth : Nat) (p : Program σ) (state : σ)
    (count : Nat) :
    (∀ m ∈ p.moments watch depth state count, Ledger m.heap ∧
      ∀ k x before answer, m.answered = some ⟨.identityOf k x, before, answer⟩ →
        Requested before k (before.slot x) answer m.heap) ∧
      ((p.moments watch depth state count).Pairwise fun earlier later =>
        LedgerGrows earlier.heap later.heap) ∧
      (∀ w : World σ, Reached watch w → Ledger w.heap) ∧
      (∀ s : Setting σ, LedgerFrame s) ∧ ∀ n, LedgerSpared σ watch n := by
  refine ⟨fun m member => ?_, ?_, fun w => Heap.Reached.ledger, ledgerFrame, ledgerSpared σ watch⟩
  · have sound := Program.sound_of_mem_moments member
    refine ⟨sound.reached.ledger, fun k x before answer answered => ?_⟩
    have known := sound.known _ answered
    have live : before.counters.isLive k = true ∧ before.hasIdentified x = true :=
      (Bool.and_eq_true _ _).mp known.live
    have meets : (answer, m.heap) = Update.identityOf k x before := known.meets
    have requested := requested_identityOf known.reached.closed live.1 live.2
    rwa [← meets] at requested
  · refine (Program.moments_ordered watch depth p state count).imp_of_mem ?_
    intro earlier later member _ trace
    obtain ⟨es, trace⟩ := trace
    exact trace.ledgerGrows (Program.sound_of_mem_moments member).reached.closed

/-- Asks the counter of a runtime for the hash code of a class, and then another counter for the
identities of an object, of the class, of the object of its statics and of a function. -/
def numbering : Program Unit := Script.toProgram do
  let rt ← Script.ask (.newRuntime {})
  let k ← Script.ask .newCounter
  let o ← Script.ask (.newObject none [])
  let c ← Script.ask (.defineClass rt { name := "A" })
  let f ← Script.newFunction "f" fun _ _ _ => Script.toProgram do return .undefined
  let _ ← Script.ask (.hashCode rt (.klass c))
  let _ ← Script.ask (.identityOf k (.object o))
  let _ ← Script.ask (.identityOf k (.function f))
  let _ ← Script.ask (.identityOf k (.klass c))
  return .klass c

/-- Does a call run the constructor of descriptor objects, which calls nothing itself? -/
def CallDone.describes (c : CallDone Unit) : Bool :=
  decide ((c.before.heap.function c.function).code = .builtin .descriptorNew) &&
    (((Setting.within {} 1).logging.runBuiltin .descriptorNew c.runtime c.this c.args).callsMade
      c.before).isEmpty

theorem CallDone.describes_quiet {c : CallDone Unit} (describes : c.describes = true) :
    ¬ Draws {} 2 c := by
  rw [CallDone.describes, Bool.and_eq_true, decide_eq_true_iff, List.isEmpty_iff] at describes
  obtain ⟨code, silent⟩ := describes
  intro draws
  cases draws with
  | hashCode other => cases code.symm.trans other
  | builtin other called =>
    cases code.symm.trans other
    rw [silent] at called
    cases called
  | asked other => cases code.symm.trans other
  | program other => cases code.symm.trans other

/-- The class answers what the runtime gave it, and the other counter does not count that. Making the
descriptor of the class leaves the ledger alone. -/
theorem numbering_ledger :
    ∃ m ∈ numbering.moments {} 2 () 40, ∃ before answer,
      m.answered = some ⟨.identityOf ⟨1⟩ (.klass ⟨2⟩), before, answer⟩ ∧
      before.kept (before.slot (.klass ⟨2⟩)) = some ⟨⟨0⟩, 0⟩ ∧ before.issued ⟨1⟩ = 2 ∧
      (answer = .ok 0 ∧ m.heap = before) ∧
      (∃ first second, HandsOut m.heap ⟨1⟩ [first, second]) ∧
      ∃ d w', (Setting.within {} 2).perform (.descriptorOf ⟨0⟩ ⟨2⟩) m.toWorld = some (.ok d, w') ∧
        SameLedger m.heap w'.heap := by
  have ends : (numbering.moments {} 2 () 40).any (fun m => m.answered.any (fun a =>
      decide (a.request = .identityOf ⟨1⟩ (.klass ⟨2⟩)) &&
        decide (a.before.kept (a.before.slot (.klass ⟨2⟩)) = some ⟨⟨0⟩, 0⟩) &&
        decide (a.before.issued ⟨1⟩ = 2)) &&
      ((Setting.within {} 2).perform (.descriptorOf ⟨0⟩ ⟨2⟩) m.toWorld).any
        (fun ended => ended.1.toOption.isSome) &&
      (((Setting.within {} 2).logging.perform (.descriptorOf ⟨0⟩ ⟨2⟩)).callsMade m.toWorld).all
        CallDone.describes) = true := by
    decide +kernel
  obtain ⟨m, member, facts⟩ := List.any_eq_true.1 ends
  simp only [Bool.and_eq_true] at facts
  obtain ⟨⟨facts, describing⟩, calls⟩ := facts
  rw [Option.any_eq_true] at facts describing
  obtain ⟨⟨request, before, answer⟩, answered, facts⟩ := facts
  simp only [Bool.and_eq_true, decide_eq_true_iff] at facts
  obtain ⟨⟨rfl, filled⟩, issued⟩ := facts
  obtain ⟨⟨described, w'⟩, run, found⟩ := describing
  obtain ⟨moments, _, _, _, spared⟩ := identities_in_order {} 2 numbering () 40
  obtain ⟨ledger, requested⟩ := moments m member
  have asked := (requested ⟨1⟩ (.klass ⟨2⟩) before answer answered).filled _ filled
  obtain ⟨slots, out⟩ := ledger.order ⟨1⟩
  have two : slots.length = 2 := by
    have counted := out.issued
    rw [asked.2, issued] at counted
    exact (Int.ofNat.inj counted).symm
  have handed : ∃ first second, HandsOut m.heap ⟨1⟩ [first, second] := by
    rcases slots with _ | ⟨first, _ | ⟨second, _ | ⟨third, rest⟩⟩⟩
    · cases two
    · cases two
    · exact ⟨first, second, out⟩
    · cases two
  have same := (spared 2).request (.descriptorOf ⟨0⟩ ⟨2⟩) _ _ _ (fun k x same => nomatch same) run
    fun c among => CallDone.describes_quiet (List.all_eq_true.1 calls c among)
  cases described with
  | error e => cases found
  | ok d => exact ⟨m, member, before, answer, answered, filled, issued, asked, handed, d, w', run, same⟩

end ProtoClass
