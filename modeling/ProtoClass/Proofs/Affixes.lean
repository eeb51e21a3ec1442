import ProtoClass.Proofs.ObjectTexts
import ProtoClass.Proofs.Surrogates

set_option autoImplicit false

/- Strings are tested for beginnings and endings unit by unit, and yet the tests answer for texts. No
text starts with the second half of a surrogate pair, so where one text goes on from another no pair is
cut: whatever stands before or behind the units of a text is read on its own, and is a text itself when
the whole is one. -/
namespace ProtoClass

/-- Is the whole a part and something behind it? -/
def BeginsWith (α : Type) [Append α] (whole part : α) : Prop := ∃ rest, whole = part ++ rest

/-- Is the whole something and a part behind it? -/
def EndsWith (α : Type) [Append α] (whole part : α) : Prop := ∃ front, whole = front ++ part

namespace Utf16

theorem startsWith_iff (units part : List UInt16) :
    startsWith units part = true ↔ BeginsWith (List UInt16) units part := by
  rw [startsWith, List.isPrefixOf_iff_prefix]
  exact exists_congr fun _ => eq_comm

theorem endsWith_iff (units part : List UInt16) :
    endsWith units part = true ↔ EndsWith (List UInt16) units part := by
  rw [endsWith, List.isSuffixOf_iff_suffix]
  exact exists_congr fun _ => eq_comm

/-- Units are read in two parts when the second one does not start with the second half of a pair. -/
theorem decodeChars_append {rest : List UInt16} (whole : rest[0]?.any isLow = false)
    (front : List UInt16) : decodeChars (front ++ rest) = decodeChars front ++ decodeChars rest := by
  fun_induction decodeChars front with
  | case1 => rfl
  | case2 u =>
    cases rest with
    | nil => rfl
    | cons v rest =>
      have apart : (isHigh u && isLow v) = false := by
        rw [show isLow v = false from whole, Bool.and_false]
      simp [decodeChars, apart]
  | case3 u v front pair ih =>
    simp only [List.cons_append, decodeChars, if_pos pair, ih]
  | case4 u v front single ih =>
    simp only [List.cons_append, decodeChars, if_neg single] at ih ⊢
    rw [ih]

/-- A character does not start with the second half of a pair. -/
theorem encodeChar_starts (c : Char) : ∃ u units, encodeChar c = u :: units ∧ isLow u = false := by
  have valid : c.toNat < 0xD800 ∨ 0xDFFF < c.toNat ∧ c.toNat < 0x110000 := c.valid
  unfold encodeChar
  split
  · next below =>
    refine ⟨_, _, rfl, ?_⟩
    have number : c.toNat.toUInt16.toNat = c.toNat := by
      rw [Nat.toUInt16, UInt16.toNat_ofNat']
      exact Nat.mod_eq_of_lt below
    simp only [isLow, number, Bool.and_eq_false_iff, decide_eq_false_iff_not]
    omega
  · refine ⟨_, _, rfl, ?_⟩
    have number : (0xD800 + (c.toNat - 0x10000) / 0x400).toUInt16.toNat =
        0xD800 + (c.toNat - 0x10000) / 0x400 := by
      rw [Nat.toUInt16, UInt16.toNat_ofNat']
      exact Nat.mod_eq_of_lt (by omega)
    simp only [isLow, number, Bool.and_eq_false_iff, decide_eq_false_iff_not]
    omega

theorem encode_starts (s : String) : (encode s)[0]?.any isLow = false := by
  unfold encode
  cases s.toList with
  | nil => rfl
  | cons c rest =>
    obtain ⟨u, units, first, single⟩ := encodeChar_starts c
    rw [List.flatMap_cons, first]
    exact single

theorem encode_append (s t : String) : encode (s ++ t) = encode s ++ encode t := by
  rw [encode, String.toList_append, List.flatMap_append, encode, encode]

/-- Units behind a text are read on their own, -/
theorem decode_encode_append (s : String) (rest : List UInt16) :
    decode (encode s ++ rest) = s ++ decode rest := by
  have read : ∀ cs : List Char,
      decodeChars (cs.flatMap encodeChar ++ rest) = cs ++ decodeChars rest := by
    intro cs
    induction cs with
    | nil => rfl
    | cons c cs ih =>
      rw [List.flatMap_cons, List.append_assoc, decodeChars_encodeChar, ih, List.cons_append]
  rw [decode, encode, read, String.ofList_append, String.ofList_toList, decode]

/-- and so are units in front of one. -/
theorem decode_append_encode (front : List UInt16) (s : String) :
    decode (front ++ encode s) = decode front ++ s := by
  have behind : String.ofList (decodeChars (encode s)) = s := decode_encode s
  rw [decode, decodeChars_append (encode_starts s), String.ofList_append, behind, decode]

theorem beginsWith_encode (s t : String) :
    BeginsWith (List UInt16) (encode s) (encode t) ↔ BeginsWith String s t := by
  constructor
  · rintro ⟨rest, whole⟩
    refine ⟨decode rest, ?_⟩
    rw [← decode_encode_append, ← whole, decode_encode]
  · rintro ⟨rest, rfl⟩
    exact ⟨encode rest, encode_append t rest⟩

theorem endsWith_encode (s t : String) :
    EndsWith (List UInt16) (encode s) (encode t) ↔ EndsWith String s t := by
  constructor
  · rintro ⟨front, whole⟩
    refine ⟨decode front, ?_⟩
    rw [← decode_append_encode, ← whole, decode_encode]
  · rintro ⟨front, rfl⟩
    exact ⟨encode front, encode_append front t⟩

end Utf16

open Utf16

/-- What an answer to a test of one string with another says: it is the truth about their units, and
also about their texts when they have been made of texts. -/
structure Tells (affix : ∀ (α : Type) [Append α], α → α → Prop) (h : Heap) (s t : StringRef)
    (answer : Bool) : Prop where
  units : answer = true ↔ affix (List UInt16) (h.string s).units (h.string t).units
  texts : ∀ a b : String, (h.string s).units = encode a → (h.string t).units = encode b →
    (answer = true ↔ affix String a b)

theorem tells_startsWith (h : Heap) (s t : StringRef) :
    Tells BeginsWith h s t (startsWith (h.string s).units (h.string t).units) where
  units := startsWith_iff _ _
  texts a b made made' := by rw [made, made', startsWith_iff, beginsWith_encode]

theorem tells_endsWith (h : Heap) (s t : StringRef) :
    Tells EndsWith h s t (endsWith (h.string s).units (h.string t).units) where
  units := endsWith_iff _ _
  texts a b made made' := by rw [made, made', endsWith_iff, endsWith_encode]

/-- How strings that are made of texts are tested. -/
structure TextsTested (h : Heap) (a b : String) : Prop where
  startsWith : let made := Update.newText a h
    let other := Update.newText b made.2
    startsWith (other.2.string made.1).units (other.2.string other.1).units = true ↔
      BeginsWith String a b
  endsWith : let made := Update.newText a h
    let other := Update.newText b made.2
    endsWith (other.2.string made.1).units (other.2.string other.1).units = true ↔
      EndsWith String a b

theorem textsTested (h : Heap) (a b : String) : TextsTested h a b := by
  have live : (Update.newText a h).2.strings.isLive (Update.newText a h).1 = true := by
    simp [Update.newText, Update.newString]
  have kept : (Update.newText b (Update.newText a h).2).2.string (Update.newText a h).1 =
      (Update.newText a h).2.string (Update.newText a h).1 := Arena.get_add_of_isLive live _
  have units := (congrArg StringCell.units kept).trans (Update.newText_units a h)
  have units' := Update.newText_units b (Update.newText a h).2
  exact ⟨(tells_startsWith _ _ _).texts a b units units', (tells_endsWith _ _ _).texts a b units units'⟩

section Members

variable {σ : Type} {w : World σ} {rt : RuntimeRef}

/-- A string whose member of a name is the built-in test answers it, when it is given a string. -/
def AnswersTest (w : World σ) (rt : RuntimeRef) (name : String) (b : Builtin)
    (affix : ∀ (α : Type) [Append α], α → α → Prop) : Prop :=
  ∀ n s t more, w.heap.strings.isLive s = true → w.heap.strings.isLive t = true →
    more.all w.heap.hasValue = true → w.heap.Resolves (w.heap.memberSource rt (.string s)) name b →
    ∃ answer, (Setting.within {} (n + 1)).perform (.invoke rt (.string s) name (.string t :: more)) w =
      some (.ok (.boolean answer), w) ∧ Tells affix w.heap s t answer

/-- The tests of strings as members. -/
structure AnswersTests (w : World σ) (rt : RuntimeRef) : Prop where
  startsWith : AnswersTest w rt "startsWith" .stringStartsWith BeginsWith
  endsWith : AnswersTest w rt "endsWith" .stringEndsWith EndsWith

theorem answersTests (runtime : w.heap.runtimes.isLive rt = true) : AnswersTests w rt := by
  have call : ∀ {name : String} {b : Builtin} (n : Nat) (s t : StringRef) (more : List Value),
      w.heap.strings.isLive s = true → w.heap.strings.isLive t = true →
      more.all w.heap.hasValue = true →
      w.heap.Resolves (w.heap.memberSource rt (.string s)) name b →
      (Setting.within {} (n + 1)).perform (.invoke rt (.string s) name (.string t :: more)) w =
        (Setting.within {} n).runBuiltin b rt (.string s) (.string t :: more) w := by
    intro name b n s t more string string' live resolves
    obtain ⟨f, found, code⟩ := resolves
    have given : (Value.string t :: more).all w.heap.hasValue = true :=
      Bool.and_eq_true_iff.2 ⟨string', live⟩
    exact perform_stringMember runtime string given found code n
  constructor
  case startsWith =>
    intro n s t more string string' live resolves
    refine ⟨_, ?_, tells_startsWith w.heap s t⟩
    rw [call n s t more string string' live resolves]
    exact stringArguments_apply "String.startsWith" .missingPrefix s _ Utf16.startsWith
  case endsWith =>
    intro n s t more string string' live resolves
    refine ⟨_, ?_, tells_endsWith w.heap s t⟩
    rw [call n s t more string string' live resolves]
    exact stringArguments_apply "String.endsWith" .missingSuffix s _ Utf16.endsWith

end Members

/-- The built-in tests are the members of strings for as long as programs spare the prototype of
strings, whatever the root is called. -/
theorem Heap.Built.resolves_tests {watch : Watch} {h : Heap} {rt : RuntimeRef} (built : h.Built watch rt)
    (spares : watch.SparesStrings rt) (s : StringRef) :
    ∀ test ∈ stringTests, h.Resolves (h.memberSource rt (.string s)) test.1 test.2 := by
  obtain ⟨options, h₀, from₀⟩ := built
  obtain rfl := from₀.made
  obtain ⟨h₁, host, closed, runtime, surfaces, rest⟩ :=
    buildRuntime_surfaces watch options from₀.reached.closed
  have passage := rest.trans from₀.since
  have hosted := passage.extended.hostNamed runtime surfaces.hosted
  have kept : (h.object host.prototype).properties = (h₁.object host.prototype).properties := by
    refine passage.properties_eq surfaces.live fun later extended write => ?_
    exact spares later _ host write (extended.hostNamed runtime surfaces.hosted) rfl
  intro test among
  have has : h.HasBuiltin host.prototype test.1 test.2 := by
    apply (surfaces.tests test among).later passage.extended
    rw [Heap.ownProperty, kept, Heap.ownProperty]
  obtain ⟨f, _, own, code⟩ := has.getOwn
  refine ⟨f, ?_, code⟩
  rw [Heap.memberSource, hosted]
  exact Heap.get_of_getOwn own

/-- Tests of beginnings and endings agree on code units and on texts. At every moment of a run, and
wherever else a program can be, the built-in members of strings give these answers; and they are the
members of strings for as long as the program does not write to the prototype of strings. -/
theorem tests_agree_with_texts {σ : Type} (watch : Watch) (depth : Nat) (p : Program σ) (state : σ)
    (count : Nat) :
    ((∀ h a b, TextsTested h a b) ∧
        ∀ units part : List UInt16,
          (Utf16.startsWith units part = true ↔ BeginsWith (List UInt16) units part) ∧
            (Utf16.endsWith units part = true ↔ EndsWith (List UInt16) units part)) ∧
      ((∀ m ∈ p.moments watch depth state count, ∀ rt, m.heap.runtimes.isLive rt = true →
          AnswersTests m.toWorld rt) ∧
        ∀ (τ : Type) (w : World τ) rt, w.heap.runtimes.isLive rt = true → AnswersTests w rt) ∧
      ∀ m ∈ p.moments watch depth state count, ∀ rt, m.heap.runtimes.isLive rt = true →
        watch.SparesStrings rt → ∀ s, ∀ test ∈ stringTests,
          m.heap.Resolves (m.heap.memberSource rt (.string s)) test.1 test.2 := by
  refine ⟨⟨textsTested, fun units part => ⟨startsWith_iff units part, endsWith_iff units part⟩⟩,
    ⟨fun m _ rt runtime => answersTests (w := m.toWorld) runtime,
      fun _ _ _ runtime => answersTests runtime⟩, ?_⟩
  intro m member rt runtime spares s
  have settled := (Program.sound_of_mem_moments member).toSettled
  exact (settled.built rt runtime).resolves_tests spares s

/-- Makes strings of two texts and of half a surrogate pair, where the root is called like the host type
of strings. -/
def halving : Program Unit := Script.toProgram do
  let _ ← Script.ask (.newRuntime { rootName := "String" })
  let _ ← Script.ask (.newString (Utf16.encode "x😀"))
  let _ ← Script.ask (.newString (Utf16.encode "😀"))
  return .string (← Script.ask (.newString [0xDE00]))

/-- The string ends with the text, and also with half of its last character. -/
theorem halving_tests :
    (Watch.sparingStrings ⟨0⟩).SparesStrings ⟨0⟩ ∧
      ∃ m ∈ halving.moments (.sparingStrings ⟨0⟩) 2 () 20, m.heap.runtimes.isLive ⟨0⟩ = true ∧
        (Setting.within {} 1).perform (.invoke ⟨0⟩ (.string ⟨0⟩) "endsWith" [.string ⟨1⟩]) m.toWorld =
          some (.ok (.boolean true), m.toWorld) ∧
        (Setting.within {} 1).perform (.invoke ⟨0⟩ (.string ⟨0⟩) "endsWith" [.string ⟨2⟩, .null])
          m.toWorld = some (.ok (.boolean true), m.toWorld) := by
  have ends : (halving.moments (.sparingStrings ⟨0⟩) 2 () 20).any (fun m =>
      m.heap.runtimes.isLive ⟨0⟩ && ([0, 1, 2].all fun i => m.heap.strings.isLive ⟨i⟩) &&
      decide ((m.heap.string ⟨0⟩).units = Utf16.encode "x😀") &&
      decide ((m.heap.string ⟨1⟩).units = Utf16.encode "😀") &&
      decide ((m.heap.string ⟨2⟩).units = [0xDE00])) = true := by
    decide +kernel
  obtain ⟨m, member, facts⟩ := List.any_eq_true.1 ends
  simp only [Bool.and_eq_true, decide_eq_true_iff, List.all_cons, List.all_nil, and_true] at facts
  obtain ⟨⟨⟨⟨runtime, whole, text, half⟩, units⟩, units'⟩, units''⟩ := facts
  have spares := Watch.sparingStrings_spares ⟨0⟩
  obtain ⟨_, ⟨tests, _⟩, resolves⟩ := tests_agree_with_texts (.sparingStrings ⟨0⟩) 2 halving () 20
  have test := (tests m member ⟨0⟩ runtime).endsWith
  have found := resolves m member ⟨0⟩ runtime spares ⟨0⟩ ("endsWith", .stringEndsWith) (by decide)
  obtain ⟨answer, run, tells⟩ := test 0 ⟨0⟩ ⟨1⟩ [] whole text rfl found
  obtain ⟨answer', run', tells'⟩ := test 0 ⟨0⟩ ⟨2⟩ [.null] whole half rfl found
  obtain rfl : answer = true := (tells.texts _ _ units units').2 ⟨"x", by decide +kernel⟩
  obtain rfl : answer' = true := by
    rw [tells'.units, units, units'']
    exact ⟨[0x78, 0xD83D], by decide +kernel⟩
  exact ⟨spares, m, member, runtime, run, run'⟩

end ProtoClass
