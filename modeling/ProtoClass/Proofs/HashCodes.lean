import ProtoClass.Proofs.Identity
import ProtoClass.Proofs.StringSurface

set_option autoImplicit false

namespace ProtoClass

/-- Does the built-in hash code know a code for values like this one? -/
def Value.isHashable : Value → Bool
  | .undefined => false
  | .null => false
  | .boolean _ => false
  | .number _ => false
  | _ => true

namespace Heap

/-- The hash code of a value; what has an identity only has one once someone has asked. -/
def hashCode? (h : Heap) : Value → Option Int32
  | .object o => (h.identity? (.object o)).map Identity.number
  | .function f => (h.identity? (.function f)).map Identity.number
  | .klass c => (h.identity? (.klass c)).map Identity.number
  | .string s => some (contentHash (h.string s).units)
  | .integer i => some i
  | _ => none

theorem hashCode?_identified (h : Heap) (x : Identified) :
    h.hashCode? x.value = (h.kept (h.slot x)).map Identity.number := by
  rw [← identity?_eq_kept]
  cases x <;> rfl

/-- Equal values have no two hash codes. -/
theorem hashCode?_of_looseEqual {h : Heap} {a b : Value} {i j : Int32}
    (equal : h.looseEqual a b = true) (first : h.hashCode? a = some i)
    (second : h.hashCode? b = some j) : i = j := by
  have agree : h.hashCode? a = h.hashCode? b → i = j := fun same =>
    Option.some.inj (first.symm.trans (same.trans second))
  cases a with
  | undefined | null | boolean | number => cases first
  | integer x =>
    cases b with
    | integer y =>
      rw [looseEqual, beq_iff_eq] at equal
      exact agree (by rw [equal])
    | number y => cases second
    | _ => cases equal
  | string s =>
    cases b with
    | string t =>
      rw [looseEqual, beq_iff_eq] at equal
      exact agree (by rw [hashCode?, hashCode?, equal])
    | _ => cases equal
  | object o =>
    cases b with
    | object p =>
      rw [looseEqual, beq_iff_eq] at equal
      exact agree (by rw [equal])
    | _ => cases equal
  | function f =>
    cases b with
    | function g =>
      rw [looseEqual, beq_iff_eq] at equal
      exact agree (by rw [equal])
    | _ => cases equal
  | klass c =>
    cases b with
    | klass d =>
      rw [looseEqual, beq_iff_eq] at equal
      exact agree (by rw [equal])
    | _ => cases equal

namespace Extends

variable {h h' : Heap} (extended : h.Extends h')
include extended

/-- A value keeps its hash code. -/
theorem hashCode? {v : Value} {i : Int32} (live : h.hasValue v = true)
    (coded : h.hashCode? v = some i) : h'.hashCode? v = some i := by
  have identified : ∀ x : Identified, h.hasIdentified x = true → h.hashCode? x.value = some i →
      h'.hashCode? x.value = some i := by
    intro x there coded
    rw [Heap.hashCode?_identified] at coded ⊢
    obtain ⟨id, held, number⟩ := Option.map_eq_some_iff.1 coded
    rw [extended.slot there, extended.kept held, Option.map_some, number]
  cases v with
  | object o => exact identified (.object o) live coded
  | function f => exact identified (.function f) live coded
  | klass c => exact identified (.klass c) live coded
  | string s =>
    rw [Heap.hashCode?, (extended.string live).units]
    exact coded
  | _ => exact coded

/-- Values of which one was asked earlier and the other later, and that are equal. -/
theorem hashed_alike {a b : Value} {i j : Int32} (live : h.hasValue a = true)
    (first : h.hashCode? a = some i) (second : h'.hashCode? b = some j)
    (equal : h'.looseEqual a b = true ∨ h'.looseEqual b a = true) : i = j := by
  have kept := extended.hashCode? live first
  rcases equal with equal | equal
  · exact Heap.hashCode?_of_looseEqual equal kept second
  · exact (Heap.hashCode?_of_looseEqual equal second kept).symm

/-- Values stay equal, and stay different. -/
theorem looseEqual {a b : Value} (first : h.hasValue a = true) (second : h.hasValue b = true) :
    h'.looseEqual a b = h.looseEqual a b := by
  cases a with
  | string s =>
    cases b with
    | string t =>
      rw [Heap.looseEqual, (extended.string first).units, (extended.string second).units]
      rfl
    | _ => rfl
  | _ => cases b <;> rfl

end Extends

end Heap

section Memo

variable {watch : Watch} {h h' : Heap} {s : StringRef}

/-- No other string than the one that is asked changes. -/
theorem Update.hashOf_string {t : StringRef} (live : h.strings.isLive t = true) (apart : s ≠ t) :
    (hashOf t h).2.string s = h.string s := by
  rw [hashOf_apply]
  cases (h.string t).hash with
  | some _ => rfl
  | none => exact (Arena.get_modify live s _).trans (if_neg apart)

theorem Event.string_eq {e : Event} (allowed : e.Allowed watch h)
    (live : h.strings.isLive s = true) (other : e ≠ .hash s) :
    (e.apply h).string s = h.string s := by
  cases e with
  | string units => exact Arena.get_add_of_isLive live _
  | hash t =>
    exact Update.hashOf_string allowed fun same => other (congrArg Event.hash same.symm)
  | _ => rw [Heap.string, (frame _ h).strings (by simp [footprint]), Heap.string]

/-- A string that is asked for its hash remembers it. -/
theorem Update.hashOf_hash (hashed : h.Hashed) (live : h.strings.isLive s = true) :
    ((hashOf s h).2.string s).hash = some (contentHash (h.string s).units) := by
  rw [hashOf_apply]
  cases remembered : (h.string s).hash with
  | some n =>
    dsimp only
    rw [remembered, hashed s n remembered]
  | none =>
    dsimp only
    rw [Heap.string, Arena.get_modify live, if_pos rfl]

/-- A string changes only when it is asked for its hash itself. -/
theorem Trace.string_eq {es : List Event} (trace : Trace watch h es h')
    (live : h.strings.isLive s = true) (unasked : .hash s ∉ es) : h'.string s = h.string s := by
  induction trace with
  | nil => rfl
  | cons allowed rest ih =>
    obtain ⟨here, later⟩ := not_or.1 (mt List.mem_cons.2 unasked)
    rw [ih ((Event.extends allowed).strings.isLive live) later,
      Event.string_eq allowed live (Ne.symm here)]

theorem Trace.string_hash {es : List Event} (trace : Trace watch h es h') (reached : h.Reached watch)
    (live : h.strings.isLive s = true) (asked : .hash s ∈ es) :
    (h'.string s).hash = some (contentHash (h.string s).units) := by
  induction trace with
  | nil => cases asked
  | @cons h e es h' allowed rest ih =>
    have extended := Event.extends allowed
    have still := extended.strings.isLive live
    rcases List.mem_cons.1 asked with rfl | later
    · exact (rest.extends.string still).hash _ (Update.hashOf_hash reached.hashed live)
    · rw [ih (reached.trace (.single allowed)) still later, (extended.string live).units]

end Memo

/-- What a call of the built-in hash code does to the heap and answers. -/
structure HashAnswer (h : Heap) (rt : RuntimeRef) (v : Value) (r : Except Error Value) (h' : Heap) :
    Prop where
  /-- The hash code is the one that the value has from then on. -/
  coded : ∀ x, r = .ok x → ∃ i, x = .integer i ∧ h'.hashCode? v = some i
  refused : v.isHashable = false → r = .error (.typeError (.noHashCode v.kindName))
  /-- As long as the counter is not exhausted, nothing else is refused. -/
  answered : v.isHashable = true → h.issued (h.runtime rt).counter ≠ Int32.maxValue →
    ∃ x, r = .ok x
  /-- A string remembers its own hash, and no other string remembers anything. -/
  filled : ∀ s, v = .string s → (h'.string s).hash = some (contentHash (h.string s).units)
  others : ∀ s, v ≠ .string s → h'.string s = h.string s

section Calls

variable {σ : Type} {watch : Watch} {w : World σ} {rt : RuntimeRef}

theorem Requested.kept_of_ok {h h' : Heap} {k : CounterRef} {x : Slot} {answer : Except Error Int32}
    {n : Int32} (requested : Requested h k x answer h') (ok : answer = .ok n) :
    (h'.kept x).map Identity.number = some n := by
  cases held : h.kept x with
  | some id =>
    obtain ⟨same, rfl⟩ := requested.filled id held
    rw [held, Option.map_some]
    exact congrArg some (Except.ok.inj (same.symm.trans ok))
  | none =>
    by_cases exhausted : h.issued k = Int32.maxValue
    · cases ok.symm.trans (requested.exhausted held exhausted).1
    · obtain ⟨first, _, _, kept⟩ := requested.first held exhausted
      rw [kept, if_pos rfl, Option.map_some]
      exact congrArg some (Except.ok.inj (first.symm.trans ok))

theorem Requested.isOk {h h' : Heap} {k : CounterRef} {x : Slot} {answer : Except Error Int32}
    (requested : Requested h k x answer h') (more : h.issued k ≠ Int32.maxValue) :
    ∃ n, answer = .ok n := by
  cases held : h.kept x with
  | some id => exact ⟨_, (requested.filled id held).1⟩
  | none => exact ⟨_, (requested.first held more).1⟩

/-- The built-in hash code of what has an identity. -/
theorem hashAnswer_identified (closed : w.heap.Closed) (runtime : w.heap.runtimes.isLive rt = true)
    {x : Identified} (there : w.heap.hasIdentified x = true) :
    ∃ r w', Setting.objectHashCode rt x.value w = some (r, w') ∧
      HashAnswer w.heap rt x.value r w'.heap := by
  have counter := (closed.runtime runtime).counter
  have requested := requested_identityOf closed counter there
  have allowed : Event.Allowed {} w.heap (.identity (w.heap.runtime rt).counter x) :=
    ⟨counter, there⟩
  have extended := Event.extends allowed
  have strings := (Event.frame (.identity (w.heap.runtime rt).counter x) w.heap).strings
    (by simp [Event.footprint])
  rw [Event.apply] at extended strings
  refine ⟨_, _, objectHashCode_apply rt x w, ?_, ?_, ?_, ?_, ?_⟩
  · intro v ok
    cases answer : (Update.identityOf (w.heap.runtime rt).counter x w.heap).1 with
    | error e =>
      rw [answer] at ok
      cases ok
    | ok n =>
      rw [answer] at ok
      cases ok
      refine ⟨n, rfl, ?_⟩
      rw [Heap.hashCode?_identified, extended.slot there]
      exact requested.kept_of_ok answer
  · intro wrong
    cases x <;> cases wrong
  · intro _ more
    obtain ⟨n, answer⟩ := requested.isOk more
    exact ⟨.integer n, by rw [answer]; rfl⟩
  · intro s wrong
    cases x <;> cases wrong
  · intro s _
    rw [Heap.string, strings, Heap.string]

/-- What the built-in hash code answers, and that it always ends. -/
theorem objectHashCode_answers (reached : w.heap.Reached watch)
    (runtime : w.heap.runtimes.isLive rt = true) {v : Value} (there : w.heap.hasValue v = true) :
    ∃ r w', Setting.objectHashCode rt v w = some (r, w') ∧ HashAnswer w.heap rt v r w'.heap := by
  have closed := Heap.Reached.closed reached
  have still : ∀ (r : Except Error Value), v.isHashable = false →
      r = .error (.typeError (.noHashCode v.kindName)) → HashAnswer w.heap rt v r w.heap := by
    rintro r unhashable rfl
    refine ⟨nofun, fun _ => rfl, fun wrong => ?_, ?_, fun _ _ => rfl⟩
    · cases unhashable.symm.trans wrong
    · rintro s rfl
      cases unhashable
  cases v with
  | object o => exact hashAnswer_identified closed runtime (x := .object o) there
  | function f => exact hashAnswer_identified closed runtime (x := .function f) there
  | klass c => exact hashAnswer_identified closed runtime (x := .klass c) there
  | string s =>
    refine ⟨_, { w with heap := (Update.hashOf s w.heap).2 }, rfl, ?_, nofun, fun _ _ => ⟨_, rfl⟩,
      ?_, ?_⟩
    · rintro x ⟨⟩
      have allowed : Event.Allowed {} w.heap (.hash s) := there
      have units := ((Event.extends allowed).string there).units
      refine ⟨_, rfl, ?_⟩
      rw [hashOf_answer (Heap.Reached.hashed reached), Heap.hashCode?]
      exact congrArg (fun units => some (contentHash units)) units
    · rintro t ⟨⟩
      exact Update.hashOf_hash (Heap.Reached.hashed reached) there
    · exact fun t other => Update.hashOf_string there fun same => other (congrArg Value.string same.symm)
  | integer i =>
    refine ⟨_, w, rfl, ?_, nofun, fun _ _ => ⟨_, rfl⟩, nofun, fun _ _ => rfl⟩
    rintro x ⟨⟩
    exact ⟨i, rfl, rfl⟩
  | undefined | null | boolean b | number x => exact ⟨_, w, rfl, still _ rfl rfl⟩

/-- What a function that is the built-in hash code answers. -/
theorem hashAnswer_of_call {s : Setting σ} {J : World σ → Prop} (lawful : s.Lawful J)
    (reached : w.heap.Reached watch) (runtime : w.heap.runtimes.isLive rt = true) {v : Value}
    (there : w.heap.hasValue v = true) {f : FunctionRef} {args : List Value}
    (code : (w.heap.function f).code = .builtin .objectHashCode) {r : Except Error Value}
    {w' : World σ} (run : s.call f rt v args w = some (r, w')) :
    HashAnswer w.heap rt v r w'.heap := by
  obtain ⟨inner, _, ran⟩ := lawful.builtin code run
  obtain ⟨r₀, w₀, run₀, answer⟩ := objectHashCode_answers reached runtime there
  cases run₀.symm.trans ran
  exact answer

end Calls

/-- Did the request call the built-in hash code of a value, and did that answer this? -/
inductive Answered.HashCode (rt : RuntimeRef) (v : Value) : Answered → Except Error Value → Prop
  | call {before : Heap} {f : FunctionRef} {args : List Value} {r : Except Error Value}
      (code : (before.function f).code = .builtin .objectHashCode) :
      HashCode rt v ⟨.call f rt v args, before, r⟩ r
  | invoke {before : Heap} {f : FunctionRef} {name : String} {args : List Value}
      {r : Except Error Value} (found : before.lookup rt v name = some (.function f))
      (code : (before.function f).code = .builtin .objectHashCode) :
      HashCode rt v ⟨.invoke rt v name args, before, r⟩ r
  | hashCode {before : Heap} {f : FunctionRef} {r : Except Error Int32}
      (found : before.lookup rt v "hashCode" = some (.function f))
      (code : (before.function f).code = .builtin .objectHashCode) :
      HashCode rt v ⟨.hashCode rt v, before, r⟩ (r.map .integer)

namespace Answered

variable {watch : Watch} {h : Heap} {a : Answered} {rt : RuntimeRef} {v : Value}
  {r : Except Error Value}

theorem HashCode.live (coded : a.HashCode rt v r) (live : a.request.isLive a.before = true) :
    a.before.runtimes.isLive rt = true ∧ a.before.hasValue v = true := by
  cases coded <;> simp only [Request.isLive, Bool.and_eq_true] at live
  case call => exact ⟨live.1.1.2, live.1.2⟩
  case invoke => exact ⟨live.1.1, live.1.2⟩
  case hashCode => exact live

theorem Known.hashAnswer (known : a.Known watch h) (coded : a.HashCode rt v r) :
    HashAnswer a.before rt v r h := by
  obtain ⟨runtime, there⟩ := coded.live known.live
  have reached := known.reached
  obtain ⟨τ, s, J, w, w', _, lawful, _, before, rfl, run⟩ := known.served
  have served := (Setting.perform_inv run).2.2
  cases coded with
  | call code =>
    cases before
    exact hashAnswer_of_call lawful reached runtime there code served
  | invoke found code =>
    cases before
    exact hashAnswer_of_call lawful reached runtime there code
      ((Setting.invoke_apply found _).symm.trans served)
  | hashCode found code =>
    cases before
    have answer : ∀ {r₁ w₁}, s.invoke rt v "hashCode" [] w = some (r₁, w₁) →
        HashAnswer w.heap rt v r₁ w₁.heap := fun run =>
      hashAnswer_of_call lawful reached runtime there code
        ((Setting.invoke_apply found _).symm.trans run)
    rcases Action.bind_inv served with ⟨e, failed, rfl⟩ | ⟨x, w₁, ok, finish⟩
    · exact answer failed
    · obtain ⟨i, rfl, _⟩ := (answer ok).coded x rfl
      cases finish
      exact answer ok

end Answered

/-- A call of the built-in hash code that gives a value its hash code. -/
def HashCalled {σ : Type} (watch : Watch) (v : Value) (i : Int32) (w w' : World σ) : Prop :=
  ∃ n f rt args, (w.heap.function f).code = .builtin .objectHashCode ∧
    w.heap.runtimes.isLive rt = true ∧ w.heap.hasValue v = true ∧
    (Setting.within watch (n + 1)).call f rt v args w = some (.ok (.integer i), w')

/-- What such a call leaves. -/
structure HashOutcome {σ : Type} (watch : Watch) (v : Value) (i : Int32) (w w' : World σ) : Prop where
  reached : Reached watch w'
  extended : w.heap.Extends w'.heap
  live : w.heap.hasValue v = true
  coded : w'.heap.hashCode? v = some i

theorem HashCalled.outcome {σ : Type} {watch : Watch} {v : Value} {i : Int32} {w w' : World σ}
    (called : HashCalled watch v i w w') (reached : Reached watch w) : HashOutcome watch v i w w' := by
  obtain ⟨n, f, rt, args, code, runtime, there, run⟩ := called
  have answer := hashAnswer_of_call (within_lawful watch (n + 1)) reached runtime there code run
  rw [call_builtin code] at run
  have kept := (within_lawful watch n).objectHashCode reached runtime there _ _ run
  obtain ⟨j, same, coded⟩ := answer.coded _ rfl
  cases same
  exact ⟨kept.holds, kept.leads.extended, there, coded⟩

/-- What hash codes are at a moment of a run. -/
structure Hashing {σ : Type} (watch : Watch) (m : Moment σ) : Prop where
  /-- A string remembers nothing or the hash of its content. -/
  memo : ∀ s, (m.heap.string s).hash = none ∨
    (m.heap.string s).hash = some (contentHash (m.heap.string s).units)
  answered : ∀ a rt v r, m.answered = some a → a.HashCode rt v r → HashAnswer a.before rt v r m.heap
  /-- A call of the built-in hash code ends, -/
  hashCode : ∀ n f rt v args, (m.heap.function f).code = .builtin .objectHashCode →
    m.heap.runtimes.isLive rt = true → m.heap.hasValue v = true →
    ∃ r w', (Setting.within watch (n + 1)).call f rt v args m.toWorld = some (r, w') ∧
      HashAnswer m.heap rt v r w'.heap
  /-- and one of the built-in equality answers with the equality of values. -/
  equals : ∀ n f rt a b args, (m.heap.function f).code = .builtin .objectEquals →
    (Setting.within watch (n + 1)).call f rt a (b :: args) m.toWorld =
      some (.ok (.boolean (m.heap.looseEqual a b)), m.toWorld)

/-- What hash codes at an earlier and at a later moment have to do with each other. -/
structure HashingLasts {σ : Type} (watch : Watch) (earlier later : Moment σ) : Prop where
  /-- Equal values were answered the same. -/
  alike : ∀ x y rt rt' a b i j, earlier.answered = some x → later.answered = some y →
    x.HashCode rt a (.ok (.integer i)) → y.HashCode rt' b (.ok (.integer j)) →
    later.heap.looseEqual a b = true ∨ later.heap.looseEqual b a = true → i = j
  equality : ∀ a b, earlier.heap.hasValue a = true → earlier.heap.hasValue b = true →
    later.heap.looseEqual a b = earlier.heap.looseEqual a b
  /-- A string that is asked for its hash in between remembers it, and any other one, whatever its
  content, stays as it is. -/
  asked : ∀ es s, Trace watch earlier.heap es later.heap → earlier.heap.strings.isLive s = true →
    .hash s ∈ es → (later.heap.string s).hash = some (contentHash (earlier.heap.string s).units)
  unasked : ∀ es s, Trace watch earlier.heap es later.heap →
    earlier.heap.strings.isLive s = true → .hash s ∉ es →
    later.heap.string s = earlier.heap.string s

theorem hashing_of_mem_moments {σ : Type} {watch : Watch} {depth : Nat} {p : Program σ} {state : σ}
    {count : Nat} {m : Moment σ} (member : m ∈ p.moments watch depth state count) :
    Hashing watch m := by
  have sound := Program.sound_of_mem_moments member
  refine ⟨fun s => ?_, ?_, ?_, ?_⟩
  · cases remembered : (m.heap.string s).hash with
    | none => exact Or.inl rfl
    | some n => exact Or.inr (congrArg some (sound.reached.hashed s n remembered))
  · exact fun a rt v r answered coded => (sound.known a answered).hashAnswer coded
  · intro n f rt v args code runtime there
    obtain ⟨r, w', run, answer⟩ :=
      objectHashCode_answers (w := m.toWorld) sound.reached runtime there
    exact ⟨r, w', (call_builtin code rt v args).trans run, answer⟩
  · exact fun n f rt a b args code => call_builtin code rt a (b :: args)

/-- Equal values have the same hash code, at whatever moments of a run, and in whatever calls, they
are asked. -/
theorem equal_values_hash_alike {σ : Type} (watch : Watch) (depth : Nat) (p : Program σ) (state : σ)
    (count : Nat) :
    (∀ m ∈ p.moments watch depth state count, Hashing watch m) ∧
      (p.moments watch depth state count).Pairwise (HashingLasts watch) ∧
      ∀ (w₁ w₁' w₂ w₂' : World σ) es a b i j, Reached watch w₁ → HashCalled watch a i w₁ w₁' →
        Trace watch w₁'.heap es w₂.heap → HashCalled watch b j w₂ w₂' →
        w₂.heap.looseEqual a b = true ∨ w₂.heap.looseEqual b a = true → i = j := by
  refine ⟨fun m => hashing_of_mem_moments, ?_, ?_⟩
  · refine (Program.moments_ordered watch depth p state count).imp_of_mem ?_
    intro earlier later first second ordered
    have sound := Program.sound_of_mem_moments first
    have extended : earlier.heap.Extends later.heap := by
      obtain ⟨es, trace⟩ := ordered
      exact trace.extends
    refine ⟨?_, fun a b => extended.looseEqual,
      fun es s trace => trace.string_hash sound.reached, fun es s trace => trace.string_eq⟩
    intro x y rt rt' a b i j asked asked' coded coded' equal
    have known := sound.known x asked
    have there := known.served.extends.hasValue (coded.live known.live).2
    obtain ⟨_, same, first⟩ := (known.hashAnswer coded).coded _ rfl
    obtain ⟨_, same', second⟩ :=
      (((Program.sound_of_mem_moments second).known y asked').hashAnswer coded').coded _ rfl
    cases same
    cases same'
    exact extended.hashed_alike there first second equal
  · intro w₁ w₁' w₂ w₂' es a b i j reached called trace called' equal
    have outcome := called.outcome reached
    have outcome' := called'.outcome (Heap.Reached.trace outcome.reached trace)
    have there := trace.extends.hasValue (outcome.extended.hasValue outcome.live)
    rw [← outcome'.extended.looseEqual there outcome'.live,
      ← outcome'.extended.looseEqual outcome'.live there] at equal
    exact (trace.extends.trans outcome'.extended).hashed_alike (outcome.extended.hasValue outcome.live)
      outcome.coded outcome'.coded equal

/-- Asks two strings of the same content and an object in between for their hash codes. -/
def hashing : Program Unit := Script.toProgram do
  let rt ← Script.ask (.newRuntime {})
  let s ← Script.ask (.newString (Utf16.encode "ab"))
  let t ← Script.ask (.newString (Utf16.encode "ab"))
  let o ← Script.ask (.newObject (some ⟨0⟩) [])
  let _ ← Script.ask (.hashCode rt (.string s))
  let _ ← Script.ask (.hashCode rt (.object o))
  let _ ← Script.ask (.hashCode rt (.string t))
  return .string t

/-- The string that is asked first remembers its hash, the other one does not yet; they are answered
the same. -/
theorem hashing_alike :
    ∃ earlier ∈ hashing.moments {} 2 () 40, ∃ later ∈ hashing.moments {} 2 () 40, ∃ x y i j,
      earlier.answered = some x ∧ later.answered = some y ∧
      x.HashCode ⟨0⟩ (.string ⟨0⟩) (.ok (.integer i)) ∧
      y.HashCode ⟨0⟩ (.string ⟨1⟩) (.ok (.integer j)) ∧
      (earlier.heap.string ⟨0⟩).hash = some 3105 ∧ (earlier.heap.string ⟨1⟩).hash = none ∧ i = j := by
  have moment : ∀ (k : Nat) (s : StringRef) (P : Heap → Bool),
      ((hashing.moments {} 2 () 40)[k]?.any fun m => P m.heap && m.answered.any fun a =>
        decide (a.request = .hashCode ⟨0⟩ (.string s)) && a.answer.isOk &&
        decide (a.before.lookup ⟨0⟩ (.string s) "hashCode" = some (.function ⟨0⟩)) &&
        decide ((a.before.function ⟨0⟩).code = .builtin .objectHashCode)) = true →
      ∃ m, (hashing.moments {} 2 () 40)[k]? = some m ∧ P m.heap = true ∧
        ∃ a i, m.answered = some a ∧ a.HashCode ⟨0⟩ (.string s) (.ok (.integer i)) := by
    intro k s P facts
    rw [Option.any_eq_true] at facts
    obtain ⟨m, at_k, facts⟩ := facts
    rw [Bool.and_eq_true, Option.any_eq_true] at facts
    obtain ⟨holds, ⟨request, before, answer⟩, answered, facts⟩ := facts
    simp only [Bool.and_eq_true, decide_eq_true_iff] at facts
    obtain ⟨⟨⟨rfl, ok⟩, found⟩, code⟩ := facts
    cases answer with
    | error => cases ok
    | ok i => exact ⟨m, at_k, holds, _, i, answered, .hashCode found code⟩
  obtain ⟨earlier, at_first, memo, x, i, answered, coded⟩ := moment 5 ⟨0⟩
    (fun h => decide ((h.string ⟨0⟩).hash = some 3105) && decide ((h.string ⟨1⟩).hash = none))
    (by decide +kernel)
  obtain ⟨later, at_second, equal, y, j, answered', coded'⟩ := moment 7 ⟨1⟩
    (fun h => h.looseEqual (.string ⟨0⟩) (.string ⟨1⟩)) (by decide +kernel)
  rw [Bool.and_eq_true, decide_eq_true_iff, decide_eq_true_iff] at memo
  obtain ⟨before, rfl⟩ := List.getElem?_eq_some_iff.1 at_first
  obtain ⟨after, rfl⟩ := List.getElem?_eq_some_iff.1 at_second
  have lasts := List.pairwise_iff_getElem.1 (equal_values_hash_alike {} 2 hashing () 40).2.1
    5 7 before after (by decide)
  exact ⟨_, List.getElem_mem before, _, List.getElem_mem after, x, y, i, j, answered, answered',
    coded, coded', memo.1, memo.2,
    lasts.alike x y _ _ _ _ i j answered answered' coded coded' (Or.inl equal)⟩

end ProtoClass
