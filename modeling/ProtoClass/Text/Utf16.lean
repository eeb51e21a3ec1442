set_option autoImplicit false

/- `encode` writes a text as code units and `decode` reads any sequence of code units back, with U+FFFD
in the place of each unpaired surrogate. Lengths, prefixes and suffixes are those of the units. -/
namespace ProtoClass.Utf16

/-- The units of one character: itself below U+10000, a surrogate pair above. -/
def encodeChar (c : Char) : List UInt16 :=
  if c.toNat < 0x10000 then [c.toNat.toUInt16]
  else
    [(0xD800 + (c.toNat - 0x10000) / 0x400).toUInt16,
      (0xDC00 + (c.toNat - 0x10000) % 0x400).toUInt16]

def encode (s : String) : List UInt16 := s.toList.flatMap encodeChar

/-- The first half of a surrogate pair. -/
def isHigh (u : UInt16) : Bool := 0xD800 ≤ u.toNat && u.toNat < 0xDC00

/-- The second half of a surrogate pair. -/
def isLow (u : UInt16) : Bool := 0xDC00 ≤ u.toNat && u.toNat < 0xE000

/-- The character that stands for an unpaired surrogate. -/
def replacement : Char := '\uFFFD'

/-- A unit that is no half of a pair. -/
def decodeUnit (u : UInt16) : Char :=
  if isHigh u || isLow u then replacement else Char.ofNat u.toNat

def decodePair (u v : UInt16) : Char :=
  Char.ofNat (0x10000 + (u.toNat - 0xD800) * 0x400 + (v.toNat - 0xDC00))

def decodeChars : List UInt16 → List Char
  | [] => []
  | [u] => [decodeUnit u]
  | u :: v :: rest =>
    if isHigh u && isLow v then decodePair u v :: decodeChars rest
    else decodeUnit u :: decodeChars (v :: rest)

/-- The text of any sequence of units, unpaired surrogates replaced. -/
def decode (units : List UInt16) : String := String.ofList (decodeChars units)

/-- Units without an unpaired surrogate are those that reading and writing give back. -/
def isWellFormed (units : List UInt16) : Bool := encode (decode units) == units

/-- Do the units of a text begin with those of another? -/
def startsWith (text start : List UInt16) : Bool := start.isPrefixOf text

/-- Do the units of a text end with those of another? -/
def endsWith (text ending : List UInt16) : Bool := ending.isSuffixOf text

theorem startsWith_eq (text start : List UInt16) : startsWith text start = decide (start <+: text) := by
  rw [startsWith, Bool.eq_iff_iff, decide_eq_true_iff, List.isPrefixOf_iff_prefix]

theorem endsWith_eq (text ending : List UInt16) : endsWith text ending = decide (ending <:+ text) := by
  rw [endsWith, Bool.eq_iff_iff, decide_eq_true_iff, List.isSuffixOf_iff_suffix]

theorem encode_ofList (cs : List Char) : encode (String.ofList cs) = cs.flatMap encodeChar := by
  simp [encode]

/-- A unit that is no half of a pair is read on its own. -/
theorem decodeChars_cons_of_not_high {u : UInt16} (single : isHigh u = false) (rest : List UInt16) :
    decodeChars (u :: rest) = decodeUnit u :: decodeChars rest := by
  cases rest with
  | nil => rfl
  | cons v rest => simp [decodeChars, single]

theorem decodeChars_encodeChar (c : Char) (rest : List UInt16) :
    decodeChars (encodeChar c ++ rest) = c :: decodeChars rest := by
  have valid : c.toNat < 0xD800 ∨ 0xDFFF < c.toNat ∧ c.toNat < 0x110000 := c.valid
  unfold encodeChar
  split
  · next below =>
    have number : c.toNat.toUInt16.toNat = c.toNat := by
      rw [Nat.toUInt16, UInt16.toNat_ofNat']
      exact Nat.mod_eq_of_lt below
    have high : isHigh c.toNat.toUInt16 = false := by
      simp only [isHigh, number, Bool.and_eq_false_iff, decide_eq_false_iff_not]
      omega
    have low : isLow c.toNat.toUInt16 = false := by
      simp only [isLow, number, Bool.and_eq_false_iff, decide_eq_false_iff_not]
      omega
    rw [List.singleton_append, decodeChars_cons_of_not_high high, decodeUnit, high, low, number]
    simp
  · next above =>
    have first : (0xD800 + (c.toNat - 0x10000) / 0x400).toUInt16.toNat =
        0xD800 + (c.toNat - 0x10000) / 0x400 := by
      rw [Nat.toUInt16, UInt16.toNat_ofNat']
      exact Nat.mod_eq_of_lt (by omega)
    have second : (0xDC00 + (c.toNat - 0x10000) % 0x400).toUInt16.toNat =
        0xDC00 + (c.toNat - 0x10000) % 0x400 := by
      rw [Nat.toUInt16, UInt16.toNat_ofNat']
      exact Nat.mod_eq_of_lt (by omega)
    have pair : (isHigh (0xD800 + (c.toNat - 0x10000) / 0x400).toUInt16 &&
        isLow (0xDC00 + (c.toNat - 0x10000) % 0x400).toUInt16) = true := by
      simp only [isHigh, isLow, first, second, Bool.and_eq_true, decide_eq_true_iff]
      omega
    have number : 0x10000 + (0xD800 + (c.toNat - 0x10000) / 0x400 - 0xD800) * 0x400 +
        (0xDC00 + (c.toNat - 0x10000) % 0x400 - 0xDC00) = c.toNat := by
      omega
    rw [List.cons_append, List.singleton_append, decodeChars, if_pos pair, decodePair, first, second,
      number, Char.ofNat_toNat]

/-- A text is read back as it was written. -/
theorem decode_encode (s : String) : decode (encode s) = s := by
  have read : ∀ cs : List Char, decodeChars (cs.flatMap encodeChar) = cs := by
    intro cs
    induction cs with
    | nil => rfl
    | cons c rest ih => rw [List.flatMap_cons, decodeChars_encodeChar, ih]
  rw [decode, encode, read, String.ofList_toList]

end ProtoClass.Utf16
