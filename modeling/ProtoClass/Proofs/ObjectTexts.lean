import Mathlib
import ProtoClass.Proofs.HashCodes
import ProtoClass.Proofs.Receivers

set_option autoImplicit false

/- The built-in text of an object is the part of the name of its class after the last dot, a `#`, and
what the member `hashCode` of the object answers. When that member is built in too, the text lasts for
ever, and no other object that has its identity from the same counter has the same text: what stands
after the last `#` is the number of the identity, whatever the names of classes contain. -/
namespace ProtoClass

/-- What stands after the last separator is found from the end. -/
theorem rtakeWhile_append_cons {α : Type} [DecidableEq α] {separator : α} (front : List α)
    {rest : List α} (free : separator ∉ rest) :
    (front ++ separator :: rest).rtakeWhile (· ≠ separator) = rest := by
  induction rest using List.reverseRecOn with
  | nil => exact List.rtakeWhile_concat_neg _ _ _ (by simp)
  | append_singleton rest last ih =>
    rw [List.mem_append, List.mem_singleton, not_or] at free
    rw [← List.cons_append, ← List.append_assoc, List.rtakeWhile_concat, ih free.1]
    exact if_pos (decide_eq_true (Ne.symm free.2))

/-- The part of a name after its last dot, or the whole name when it has no dot. -/
structure IsSimpleName (name part : String) : Prop where
  free : '.' ∉ part.toList
  whole : part = name ∨ ∃ qualifier, name = qualifier ++ "." ++ part

theorem toList_simpleName (name : String) :
    (simpleName name).toList = name.toList.rtakeWhile (· ≠ '.') := by
  rw [simpleName, String.toList_ofList, List.rtakeWhile]

theorem isSimpleName_iff {name part : String} : IsSimpleName name part ↔ part = simpleName name := by
  constructor
  · rintro ⟨free, whole⟩
    rw [← String.toList_inj, toList_simpleName]
    rcases whole with rfl | ⟨qualifier, rfl⟩
    · symm
      rw [List.rtakeWhile_eq_self_iff]
      intro c member
      exact decide_eq_true fun same => free (same ▸ member)
    · rw [String.toList_append, String.toList_append, List.append_assoc]
      exact (rtakeWhile_append_cons _ free).symm
  · rintro rfl
    constructor
    · rw [toList_simpleName]
      intro dot
      exact absurd (List.mem_rtakeWhile_imp dot) (by decide)
    · have parts := List.rdropWhile_append_rtakeWhile (p := (· ≠ '.')) (l := name.toList)
      rw [← toList_simpleName] at parts
      by_cases qualifier : name.toList.rdropWhile (· ≠ '.') = []
      · rw [qualifier, List.nil_append, String.toList_inj] at parts
        exact Or.inl parts
      · have dot : (name.toList.rdropWhile (· ≠ '.')).getLast qualifier = '.' := by
          simpa using List.rdropWhile_last_not _ _ qualifier
        refine Or.inr ⟨String.ofList (name.toList.rdropWhile (· ≠ '.')).dropLast, ?_⟩
        rw [← List.dropLast_append_getLast qualifier, dot] at parts
        rw [← String.toList_inj, String.toList_append, String.toList_append, String.toList_ofList]
        exact parts.symm

/-- The text of an integer has no separator in it. -/
theorem not_mem_toString (i : Int) : '#' ∉ (toString i).toList := by
  have digits : ∀ n : Nat, '#' ∉ n.repr.toList := by
    intro n member
    rw [Nat.toList_repr] at member
    exact absurd (Nat.isDigit_of_mem_toDigits (by decide) (by decide) member) (by decide)
  rw [Int.toString_eq_repr, Int.repr_eq_if]
  split
  · exact digits _
  · rw [String.toList_append, List.mem_append, not_or]
    exact ⟨by decide, digits _⟩

/-- What stands after the last `#` of a text is determined by it. -/
theorem number_of_text {part part' : String} {i j : Int}
    (same : part ++ "#" ++ toString i = part' ++ "#" ++ toString j) : i = j := by
  have read : ∀ (part : String) (i : Int),
      (part ++ "#" ++ toString i).toList.rtakeWhile (· ≠ '#') = (toString i).toList := by
    intro part i
    rw [String.toList_append, String.toList_append, List.append_assoc]
    exact rtakeWhile_append_cons _ (not_mem_toString i)
  have digits := read part i
  rw [same, read part' j, String.toList_inj, Int.toString_eq_repr, Int.toString_eq_repr] at digits
  exact (Int.repr_inj.1 digits).symm

namespace Heap

/-- The member that an object sees under a name is this built-in one. -/
def Resolves (h : Heap) (o : ObjectRef) (name : String) (b : Builtin) : Prop :=
  ∃ f, h.get o name = some (.function f) ∧ (h.function f).code = .builtin b

/-- An object that delegates to a root prototype has a class. -/
theorem Reached.owningClass_of_reaches {watch : Watch} {h : Heap} (reached : h.Reached watch)
    {o : ObjectRef} (reaches : h.Reaches (.object o)) : ∃ c, h.owningClass o = some c := by
  obtain ⟨rt, live, above⟩ := reaches
  have bound := reached.linked.bound _ (reached.closed.root_live live)
  rw [← Option.isSome_iff_exists, owningClass, List.findSome?_isSome_iff]
  exact ⟨h.rootPrototype rt, above, by rw [rootPrototype, bound]; rfl⟩

end Heap

/-- What becomes of the answer of a hash code: its text ends the text of the object, which is given out
and kept in a new string. -/
def tellHash {σ : Type} (part : String) : Except Error Value × World σ → Except Error String × World σ
  | (.error e, w) => (.error e, w)
  | (.ok hash, w) =>
    let text := part ++ "#" ++ w.heap.display hash
    (.ok text, { w with heap := (Update.newText text w.heap).2 })

section Telling

variable {σ : Type} {w : World σ} {rt : RuntimeRef} {o : ObjectRef} {c : ClassRef}

theorem display_apply {watch : Watch}
    (resolves : w.heap.Resolves o "toString" .objectToString)
    (owned : w.heap.owningClass o = some c) (n : Nat) :
    (Setting.within watch (n + 1)).display rt (.object o) w =
      ((Setting.within watch n).invoke rt (.object o) "hashCode" [] w).map
        (tellHash (simpleName (w.heap.klass c).name)) := by
  obtain ⟨f, found, code⟩ := resolves
  have looked : w.heap.lookup rt (.object o) "toString" = some (.function f) := found
  have called : (Setting.within watch (n + 1)).invoke rt (.object o) "toString" [] w =
      ((Setting.within watch n).invoke rt (.object o) "hashCode" [] >>= fun hash =>
        Action.heap >>= fun h =>
          Action.text (simpleName (w.heap.klass c).name ++ "#" ++ h.display hash)) w := by
    refine (Setting.invoke_apply looked []).trans ((call_builtin code rt _ []).trans ?_)
    unfold Setting.runBuiltin Setting.objectToString
    dsimp only
    rw [Action.heap_bind_apply, owned]
    rfl
  unfold Setting.display
  cases ran : (Setting.within watch n).invoke rt (.object o) "hashCode" [] w with
  | none => exact Action.bind_of_none (called.trans (Action.bind_of_none ran))
  | some ended =>
    obtain ⟨outcome, w'⟩ := ended
    cases outcome with
    | error e => exact Action.bind_of_error (called.trans (Action.bind_of_error ran))
    | ok hash =>
      rw [Action.bind_of_ok ran, Action.heap_bind_apply] at called
      obtain ⟨t, w'', made, _, shown⟩ :=
        text_apply (w := w') (simpleName (w.heap.klass c).name ++ "#" ++ w'.heap.display hash)
      refine (Action.bind_of_ok (called.trans made)).trans ?_
      rw [Action.heap_bind_apply, shown]
      cases made
      rfl

/-- The text of an object tells its class and its hash code. -/
structure TellsHash (w : World σ) (rt : RuntimeRef) (o : ObjectRef) (c : ClassRef) (part : String) :
    Prop where
  owner : w.heap.owningClass o = some c
  spelled : IsSimpleName (w.heap.klass c).name part
  /-- What calling the member `hashCode` of the object ends with, the text ends with. -/
  dispatched : ∀ n, (Setting.within {} (n + 1)).perform (.display rt (.object o)) w =
    ((Setting.within {} n).perform (.invoke rt (.object o) "hashCode" []) w).map (tellHash part)
  /-- The function that the object sees under that name is called, whichever it is. -/
  seen : ∀ n f, w.heap.get o "hashCode" = some (.function f) →
    (Setting.within {} (n + 1)).perform (.display rt (.object o)) w =
      ((Setting.within {} n).call f rt (.object o) [] w).map (tellHash part)

theorem tellsHash_of_resolves (runtime : w.heap.runtimes.isLive rt = true)
    (live : w.heap.objects.isLive o = true) (owned : w.heap.owningClass o = some c)
    (resolves : w.heap.Resolves o "toString" .objectToString) :
    TellsHash w rt o c (simpleName (w.heap.klass c).name) := by
  have there : w.heap.hasValue (.object o) = true := live
  have displayed : ∀ n, (Setting.within {} (n + 1)).perform (.display rt (.object o)) w =
      ((Setting.within {} n).invoke rt (.object o) "hashCode" [] w).map
        (tellHash (simpleName (w.heap.klass c).name)) := by
    intro n
    refine (Setting.perform_apply ?_ rfl).trans (display_apply resolves owned n)
    rw [Request.isLive, runtime, there]
    rfl
  refine ⟨owned, isSimpleName_iff.2 rfl, fun n => ?_, fun n f found => ?_⟩
  · have asked : (Request.invoke rt (.object o) "hashCode" []).isLive w.heap = true := by
      rw [Request.isLive, runtime, there]
      rfl
    have performed : (Setting.within {} n).perform (.invoke rt (.object o) "hashCode" []) w =
        (Setting.within {} n).invoke rt (.object o) "hashCode" [] w := Setting.perform_apply asked rfl
    rw [displayed, performed]
  · have looked : w.heap.lookup rt (.object o) "hashCode" = some (.function f) := found
    rw [displayed, Setting.invoke_apply looked]

end Telling

namespace Heap

/-- The built-in text of an object that has its identity. -/
def objectText? (h : Heap) (o : ObjectRef) : Option String := do
  let c ← h.owningClass o
  let id ← h.identity? (.object o)
  return simpleName (h.klass c).name ++ "#" ++ toString id.number.toInt

theorem objectText?_eq_some_iff {h : Heap} {o : ObjectRef} {text : String} :
    h.objectText? o = some text ↔ ∃ c id, h.owningClass o = some c ∧
      h.identity? (.object o) = some id ∧
      simpleName (h.klass c).name ++ "#" ++ toString id.number.toInt = text := by
  simp [objectText?, Option.bind_eq_some_iff]

/-- The text lasts. -/
theorem Closed.objectText?_later {h h' : Heap} (closed : h.Closed) (extended : h.Extends h')
    (closed' : h'.Closed) {o : ObjectRef} {text : String} (told : h.objectText? o = some text) :
    h'.objectText? o = some text := by
  obtain ⟨c, id, owned, held, rfl⟩ := objectText?_eq_some_iff.1 told
  have live := isLive_of_owningClass owned
  refine objectText?_eq_some_iff.2 ⟨c, id, ?_, (extended.object live).identity id held, ?_⟩
  · rw [closed.owningClass_later extended closed' live, owned]
  · rw [(extended.klass (closed.owningClass_live owned)).name]

/-- Two objects that have their identities from one counter have two texts. -/
theorem Reached.objectText?_ne {watch : Watch} {h : Heap} (reached : h.Reached watch)
    {o p : ObjectRef} (apart : p ≠ o) {text text' : String} {id id' : Identity}
    (told : h.objectText? o = some text) (told' : h.objectText? p = some text')
    (held : h.identity? (.object o) = some id) (held' : h.identity? (.object p) = some id')
    (issuer : id'.issuer = id.issuer) : text' ≠ text := by
  rintro rfl
  obtain ⟨c, x, _, first, spelled⟩ := objectText?_eq_some_iff.1 told
  obtain ⟨c', y, _, second, spelled'⟩ := objectText?_eq_some_iff.1 told'
  obtain rfl := Option.some.inj (first.symm.trans held)
  obtain rfl := Option.some.inj (second.symm.trans held')
  have number := Int32.toInt_inj.1 (number_of_text (spelled'.trans spelled.symm))
  have same : y = x := by
    cases x
    cases y
    cases issuer
    cases number
    rfl
  have slots := reached.ledger.unique (.object p) (.object o) y second (same ▸ first)
  exact apart (Slot.object.inj slots)

/-- An object delegates to a root prototype, and what it sees there of text and hash code is built in. -/
structure HasBuiltinText (h : Heap) (o : ObjectRef) : Prop where
  live : h.objects.isLive o = true
  reaches : h.Reaches (.object o)
  toString : h.Resolves o "toString" .objectToString
  hashCode : h.Resolves o "hashCode" .objectHashCode

end Heap

/-- What comes of asking an object for its built-in text. -/
structure TextAnswer (h : Heap) (rt : RuntimeRef) (o : ObjectRef) (answer : Except Error String)
    (h' : Heap) : Prop where
  told : ∀ text, answer = .ok text → h'.objectText? o = some text
  /-- An object that has its text is not refused. -/
  filled : ∀ text, h.objectText? o = some text → answer = .ok text
  /-- Only for want of an identity there is no text. -/
  refused : ∀ e, answer = .error e → e = .identitiesExhausted ∧
    h.identity? (.object o) = none ∧ h.issued (h.runtime rt).counter = Int32.maxValue ∧ h' = h

theorem Requested.refused {h h' : Heap} {k : CounterRef} {x : Slot} {e : Error}
    (requested : Requested h k x (.error e) h') :
    e = .identitiesExhausted ∧ h.kept x = none ∧ h.issued k = Int32.maxValue ∧ h' = h := by
  cases held : h.kept x with
  | some id => cases (requested.filled id held).1
  | none =>
    by_cases exhausted : h.issued k = Int32.maxValue
    · obtain ⟨same, unchanged⟩ := requested.exhausted held exhausted
      exact ⟨Except.error.inj same, rfl, exhausted, unchanged⟩
    · cases (requested.first held exhausted).1

namespace TextAnswer

variable {h h' : Heap} {rt : RuntimeRef} {o : ObjectRef}

theorem of_refused {e : Error}
    (requested : Requested h (h.runtime rt).counter (.object o) (.error e) h') :
    TextAnswer h rt o (.error e) h' := by
  refine ⟨nofun, fun text told => ?_, ?_⟩
  · obtain ⟨_, id, _, held, _⟩ := Heap.objectText?_eq_some_iff.1 told
    cases (requested.filled id held).1
  · rintro _ ⟨⟩
    exact requested.refused

theorem of_told {text : String} (told : h'.objectText? o = some text)
    (lasts : ∀ before, h.objectText? o = some before → h'.objectText? o = some before) :
    TextAnswer h rt o (.ok text) h' := by
  refine ⟨?_, fun before filled => ?_, nofun⟩
  · rintro _ ⟨⟩
    exact told
  · exact congrArg Except.ok (Option.some.inj (told.symm.trans (lasts before filled)))

end TextAnswer

section Asking

variable {σ : Type} {w : World σ} {rt : RuntimeRef} {o : ObjectRef}

/-- The request ends, with the text or for want of an identity. -/
theorem display_answers (reached : w.heap.Reached {}) (runtime : w.heap.runtimes.isLive rt = true)
    (has : w.heap.HasBuiltinText o) (n : Nat) :
    ∃ answer w', (Setting.within {} (n + 2)).perform (.display rt (.object o)) w = some (answer, w') ∧
      TextAnswer w.heap rt o answer w'.heap := by
  have closed := reached.closed
  obtain ⟨c, owned⟩ := reached.owningClass_of_reaches has.reaches
  obtain ⟨f, found, code⟩ := has.hashCode
  obtain ⟨answer, w₁, run, requested⟩ :=
    call_objectHashCode n reached (x := .object o) code runtime has.live []
  have displayed := (tellsHash_of_resolves runtime has.live owned has.toString).seen (n + 1) f found
  have called : (Setting.within {} (n + 1)).call f rt (.object o) [] w =
      some (answer.map .integer, w₁) := run
  rw [called] at displayed
  cases answer with
  | error e =>
    have performed : (Setting.within {} (n + 2)).perform (.display rt (.object o)) w =
      some (.error e, w₁) := displayed
    exact ⟨.error e, w₁, performed, .of_refused requested⟩
  | ok i =>
    obtain ⟨text, spelled⟩ : ∃ text, simpleName (w.heap.klass c).name ++ "#" ++ toString i.toInt = text :=
      ⟨_, rfl⟩
    have performed : (Setting.within {} (n + 2)).perform (.display rt (.object o)) w =
        some (.ok text, { w₁ with heap := (Update.newText text w₁.heap).2 }) := by
      rw [← spelled]
      exact displayed
    have kept := (within_lawful {} (n + 2)).perform reached _ _ _ performed
    have closed' := Heap.Reached.closed kept.holds
    have extended := kept.leads.extended
    -- the new string leaves the identity where the hash code has put it
    obtain ⟨id, held, number⟩ := Option.map_eq_some_iff.1 (requested.kept_of_ok rfl)
    have told : (Update.newText text w₁.heap).2.objectText? o = some text := by
      refine Heap.objectText?_eq_some_iff.2 ⟨c, id, ?_, held, ?_⟩
      · exact (closed.owningClass_later extended closed' has.live).trans owned
      · rw [(extended.klass (closed.owningClass_live owned)).name, number, spelled]
    exact ⟨.ok text, _, performed, .of_told told fun _ => closed.objectText?_later extended closed'⟩

/-- Did asking an object for its text give this one? -/
def Shown (watch : Watch) (o : ObjectRef) (text : String) (w w' : World σ) : Prop :=
  ∃ n rt, (Setting.within watch n).perform (.display rt (.object o)) w = some (.ok text, w')

/-- What such a question leaves. -/
structure TextOutcome (h : Heap) (o : ObjectRef) (text : String) (h' : Heap) : Prop where
  reached : h'.Reached {}
  extended : h.Extends h'
  told : h'.objectText? o = some text

theorem Shown.outcome {watch : Watch} {text : String} {w' : World σ} (shown : Shown watch o text w w')
    (reached : w.heap.Reached {}) (has : w.heap.HasBuiltinText o) :
    TextOutcome w.heap o text w'.heap := by
  obtain ⟨n, rt, run⟩ := shown
  have wide := Setting.perform_below (Watch.le_default watch) (Nat.le_add_right n 2) _ _ _ run
  have asked := (Setting.perform_inv wide).1
  rw [Request.isLive, Bool.and_eq_true] at asked
  obtain ⟨answer, w'', run', answered⟩ := display_answers reached asked.1 has n
  cases run'.symm.trans wide
  have kept := (within_lawful {} (n + 2)).perform reached _ _ _ wide
  exact ⟨kept.holds, kept.leads.extended, answered.told text rfl⟩

/-- An object has a text for good, and has it alone. -/
structure TextLasts (o : ObjectRef) (text : String) (w : World σ) : Prop where
  /-- Asked through any runtime, it gives this text whenever its members are built in. -/
  same : w.heap.HasBuiltinText o → ∀ rt n, w.heap.runtimes.isLive rt = true →
    ∃ w', (Setting.within {} (n + 2)).perform (.display rt (.object o)) w = some (.ok text, w')
  /-- Another object gives another text when it has its identity from the same counter. -/
  alone : ∀ watch p text' w' x y, p ≠ o → w.heap.HasBuiltinText p → Shown watch p text' w w' →
    w'.heap.identity? (.object o) = some x → w'.heap.identity? (.object p) = some y →
    y.issuer = x.issuer → text' ≠ text

theorem textLasts_of_told {text : String} (reached : w.heap.Reached {})
    (told : w.heap.objectText? o = some text) : TextLasts o text w := by
  constructor
  · intro has rt n runtime
    obtain ⟨answer, w', run, answered⟩ := display_answers reached runtime has n
    rw [answered.filled text told] at run
    exact ⟨w', run⟩
  · intro watch p text' w' x y apart has shown held held' issuer
    have outcome := shown.outcome reached has
    have kept := reached.closed.objectText?_later outcome.extended outcome.reached.closed told
    exact outcome.reached.objectText?_ne apart kept outcome.told held held' issuer

/-- What the built-in texts of objects are. -/
structure ObjectTexts (w : World σ) : Prop where
  tells : ∀ rt o, w.heap.runtimes.isLive rt = true → w.heap.objects.isLive o = true →
    w.heap.Reaches (.object o) → w.heap.Resolves o "toString" .objectToString →
    ∃ c part, TellsHash w rt o c part
  answers : ∀ rt o n, w.heap.runtimes.isLive rt = true → w.heap.HasBuiltinText o →
    ∃ answer w', (Setting.within {} (n + 2)).perform (.display rt (.object o)) w = some (answer, w') ∧
      TextAnswer w.heap rt o answer w'.heap
  lasts : ∀ o text, w.heap.objectText? o = some text → TextLasts o text w

theorem objectTexts_of_reached (reached : w.heap.Reached {}) : ObjectTexts w where
  tells rt o runtime live reaches resolves := by
    obtain ⟨c, owned⟩ := reached.owningClass_of_reaches reaches
    exact ⟨c, _, tellsHash_of_resolves runtime live owned resolves⟩
  answers _ _ n runtime has := display_answers reached runtime has n
  lasts _ _ told := textLasts_of_told reached told

end Asking

/-- At every moment of a run, and wherever else a program can be, the built-in text of an object tells
its class and its hash code; once an object has given a text that its identity accounts for, it gives
that text at all later moments, and no other object with an identity from the same counter does. -/
theorem object_texts_are_faithful {σ : Type} (watch : Watch) (depth : Nat) (p : Program σ) (state : σ)
    (count : Nat) :
    ((∀ m ∈ p.moments watch depth state count, ObjectTexts m.toWorld) ∧
        ∀ (τ : Type) (w : World τ), Reached watch w → ObjectTexts w) ∧
      ((p.moments watch depth state count).Pairwise fun earlier later =>
        ∀ o text, earlier.heap.objectText? o = some text → TextLasts o text later.toWorld) ∧
      ∀ (τ : Type) (w w' w'' : World τ) o text es, Reached watch w → w.heap.HasBuiltinText o →
        Shown watch o text w w' → Trace watch w'.heap es w''.heap → TextLasts o text w'' := by
  refine ⟨everywhere_of_reached (fun _ _ => objectTexts_of_reached) watch depth p state count, ?_, ?_⟩
  · refine (Program.moments_ordered watch depth p state count).imp_of_mem ?_
    rintro earlier later member member' ⟨es, trace⟩ o text told
    have closed := (Program.sound_of_mem_moments member).reached.closed
    have reached := (Program.sound_of_mem_moments member').reached
    exact textLasts_of_told (w := later.toWorld) (reached.mono (Watch.le_default watch))
      (closed.objectText?_later trace.extends reached.closed told)
  · intro τ w w' w'' o text es reached has shown trace
    have outcome := shown.outcome (Heap.Reached.mono (Watch.le_default watch) reached) has
    have later := outcome.reached.trace (trace.mono (Watch.le_default watch))
    exact textLasts_of_told later
      (outcome.reached.closed.objectText?_later trace.extends later.closed outcome.told)

/-- Makes an instance of a class and two of a subclass, one of them with a hash code of its own, and
asks the first two for their texts. -/
def labelling : Program Unit := Script.toProgram do
  let rt ← Script.ask (.newRuntime {})
  let f ← Script.newFunction "f" fun _ _ _ => Script.toProgram do
    return .string (← Script.ask (.newString (Utf16.encode "1#0")))
  let a ← Script.ask (.defineClass rt { name := "shop.A#1" })
  let b ← Script.ask (.defineClass rt { name := "shop.A", superclass := "shop.A#1" })
  let o ← Script.ask (.newObject (some ((← Script.heap).klass a).prototype) [])
  let p ← Script.ask (.newObject (some ((← Script.heap).klass b).prototype) [])
  let q ← Script.ask (.newObject (some ((← Script.heap).klass b).prototype) [("hashCode", .function f)])
  let _ ← Script.ask (.display rt (.object o))
  let _ ← Script.ask (.display rt (.object p))
  return .object q

/-- The first object keeps its text, which the second one does not have; the third has it too, because
its hash code is not built in. -/
theorem labelling_texts :
    ∃ earlier ∈ labelling.moments {} 3 () 40, ∃ later ∈ labelling.moments {} 3 () 40, ∃ w w',
      earlier.heap.objectText? ⟨14⟩ = some "A#1#0" ∧
      (Setting.within {} 2).perform (.display ⟨0⟩ (.object ⟨14⟩)) later.toWorld =
        some (.ok "A#1#0", w) ∧
      TextLasts ⟨14⟩ "A#1#0" w ∧
      (Setting.within {} 2).perform (.display ⟨0⟩ (.object ⟨15⟩)) later.toWorld =
        some (.ok "A#1", w') ∧
      TellsHash later.toWorld ⟨0⟩ ⟨16⟩ ⟨3⟩ "A" ∧
      ((Setting.within {} 3).perform (.display ⟨0⟩ (.object ⟨16⟩)) later.toWorld).map
        (fun ended => ended.1.toOption) = some (some "A#1#0") := by
  have first : (labelling.moments {} 3 () 40)[11]?.any (fun m : Moment Unit =>
      decide (m.heap.objectText? ⟨14⟩ = some "A#1#0")) = true := by
    decide +kernel
  have second : (labelling.moments {} 3 () 40)[12]?.any (fun m : Moment Unit =>
      m.heap.runtimes.isLive ⟨0⟩ &&
      decide ((m.heap.function ⟨2⟩).code = .builtin .objectToString) &&
      decide ((m.heap.function ⟨0⟩).code = .builtin .objectHashCode) &&
      ([14, 15, 16].all fun i => m.heap.objects.isLive ⟨i⟩ &&
        decide (m.heap.rootPrototype ⟨0⟩ ∈ m.heap.chain ⟨i⟩) &&
        decide (m.heap.get ⟨i⟩ "toString" = some (.function ⟨2⟩))) &&
      ([14, 15].all fun i => decide (m.heap.get ⟨i⟩ "hashCode" = some (.function ⟨0⟩))) &&
      decide (m.heap.objectText? ⟨15⟩ = some "A#1") &&
      decide (m.heap.owningClass ⟨16⟩ = some ⟨3⟩) &&
      decide (simpleName (m.heap.klass ⟨3⟩).name = "A") &&
      decide (((Setting.within {} 3).perform (.display ⟨0⟩ (.object ⟨16⟩)) m.toWorld).map
        (fun ended => ended.1.toOption) = some (some "A#1#0"))) = true := by
    decide +kernel
  rw [Option.any_eq_true] at first second
  obtain ⟨earlier, at_first, told⟩ := first
  obtain ⟨later, at_second, facts⟩ := second
  simp only [Bool.and_eq_true, decide_eq_true_iff, List.all_cons, List.all_nil, and_true] at told facts
  obtain ⟨⟨⟨⟨⟨⟨⟨⟨runtime, textCode⟩, hashCode⟩, ⟨⟨live, above⟩, text⟩, ⟨⟨live', above'⟩, text'⟩,
    ⟨live'', above''⟩, text''⟩, hash, hash'⟩, told'⟩, owned⟩, part⟩, overridden⟩ := facts
  have has : later.heap.HasBuiltinText ⟨14⟩ :=
    ⟨live, ⟨⟨0⟩, runtime, above⟩, ⟨⟨2⟩, text, textCode⟩, ⟨⟨0⟩, hash, hashCode⟩⟩
  have has' : later.heap.HasBuiltinText ⟨15⟩ :=
    ⟨live', ⟨⟨0⟩, runtime, above'⟩, ⟨⟨2⟩, text', textCode⟩, ⟨⟨0⟩, hash', hashCode⟩⟩
  obtain ⟨before, rfl⟩ := List.getElem?_eq_some_iff.1 at_first
  obtain ⟨after, rfl⟩ := List.getElem?_eq_some_iff.1 at_second
  obtain ⟨⟨texts, _⟩, lasts, shows⟩ := object_texts_are_faithful {} 3 labelling () 40
  have member := List.getElem_mem after
  have kept := List.pairwise_iff_getElem.1 lasts 11 12 before after (by decide) ⟨14⟩ _ told
  obtain ⟨w, run⟩ := kept.same has ⟨0⟩ 0 runtime
  obtain ⟨w', run'⟩ := ((texts _ member).lasts ⟨15⟩ _ told').same has' ⟨0⟩ 0 runtime
  obtain ⟨c, name, tells⟩ := (texts _ member).tells ⟨0⟩ ⟨16⟩ runtime live'' ⟨⟨0⟩, runtime, above''⟩
    ⟨⟨2⟩, text'', textCode⟩
  obtain rfl : ⟨3⟩ = c := Option.some.inj (owned.symm.trans tells.owner)
  obtain rfl : name = "A" := (isSimpleName_iff.1 tells.spelled).trans part
  have reached := (Program.sound_of_mem_moments member).reached
  exact ⟨_, List.getElem_mem before, _, member, w, w', told, run,
    shows Unit _ w w ⟨14⟩ _ [] reached has ⟨2, ⟨0⟩, run⟩ (.nil _), run', tells, overridden⟩

end ProtoClass
