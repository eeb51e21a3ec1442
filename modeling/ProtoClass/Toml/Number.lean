import ProtoClass.Number.Power
import ProtoClass.Toml.Lexeme

set_option autoImplicit false

/- Integers have to fit into 64 bits with a sign. A floating-point literal keeps its exact decimal
value; a positive one is refused when it would round to infinity. -/
namespace ProtoClass.Toml

/-- A sign, when there is one: is it a minus? -/
def sign : List Char → Bool × List Char
  | '-' :: rest => (true, rest)
  | '+' :: rest => (false, rest)
  | rest => (false, rest)

/-- The digits of a decimal integer: no zero in front of other digits. -/
def wholeDigits : Reader (List Char)
  | '0' :: rest => some (['0'], rest)
  | cs => digitRun Char.isDigit cs

def fits (i : Int) : Option Scalar :=
  if -(twoPow 63 : Int) ≤ i ∧ i < twoPow 63 then some (.integer i) else none

/-- The integer with this base and these digits, after its prefix. -/
def basedInteger (base : Nat) (isDigit : Char → Bool) (cs : List Char) :
    Option (Scalar × List Char) := do
  let (ds, rest) ← digitRun isDigit cs
  return (← fits (numeral base ds), rest)

/-- The least positive value that rounds to infinity: halfway between the greatest number of 64
bits and the power of two above it. -/
def overflowBound : Nat := (twoPow 54 - 1) * twoPow 970

/-- Does `coefficient × 10 ^ exponent` round to infinity? Far outside the range of exponents of
numbers the powers are not computed. -/
def overflows (coefficient : Nat) (exponent : Int) : Bool :=
  if coefficient = 0 then false
  else if 400 < exponent then true
  else if 0 ≤ exponent then overflowBound ≤ coefficient * tenPow exponent.toNat
  else if (Nat.toDigits 10 coefficient).length < 300 + (-exponent).toNat then false
  else overflowBound * tenPow (-exponent).toNat ≤ coefficient

def realLiteral (negative : Bool) (whole fraction : List Char) (exponent : Int) : Option Scalar :=
  let coefficient := numeral 10 (whole ++ fraction)
  let exponent := exponent - fraction.length
  if negative = false ∧ overflows coefficient exponent then none
  else some (.real (.decimal negative coefficient exponent))

/-- The exponent part after its `e`. -/
def exponentPart (cs : List Char) : Option (Int × List Char) := do
  let (negative, cs) := sign cs
  let (ds, rest) ← digitRun Char.isDigit cs
  return (if negative then -(numeral 10 ds : Int) else numeral 10 ds, rest)

/-- A number with its sign already read: an integer, or with a fraction or an exponent a
floating-point literal. -/
def unsignedNumber (negative : Bool) (cs : List Char) : Option (Scalar × List Char) :=
  match cs with
  | 'i' :: 'n' :: 'f' :: rest => some (.real (.infinite negative), rest)
  | 'n' :: 'a' :: 'n' :: rest => some (.real .nan, rest)
  | _ => do
    let (whole, rest) ← wholeDigits cs
    match rest with
    | '.' :: rest => do
      let (fraction, rest) ← digitRun Char.isDigit rest
      match rest with
      | c :: after =>
        if c = 'e' ∨ c = 'E' then
          let (exponent, rest) ← exponentPart after
          return (← realLiteral negative whole fraction exponent, rest)
        else return (← realLiteral negative whole fraction 0, rest)
      | [] => return (← realLiteral negative whole fraction 0, [])
    | c :: after =>
      if c = 'e' ∨ c = 'E' then
        let (exponent, rest) ← exponentPart after
        return (← realLiteral negative whole [] exponent, rest)
      else
        let n := numeral 10 whole
        return (← fits (if negative then -(n : Int) else n), rest)
    | [] =>
      let n := numeral 10 whole
      return (← fits (if negative then -(n : Int) else n), [])

def number (cs : List Char) : Option (Scalar × List Char) :=
  match cs with
  | '0' :: 'x' :: rest => basedInteger 16 isHexDigit rest
  | '0' :: 'o' :: rest => basedInteger 8 (fun c => '0' ≤ c && c ≤ '7') rest
  | '0' :: 'b' :: rest => basedInteger 2 (fun c => c == '0' || c == '1') rest
  | _ =>
    let (negative, rest) := sign cs
    unsignedNumber negative rest

def isLeapYear (year : Nat) : Bool := year % 4 == 0 && (year % 100 != 0 || year % 400 == 0)

def daysInMonth (year month : Nat) : Nat :=
  if month = 2 then if isLeapYear year then 29 else 28
  else if month = 4 ∨ month = 6 ∨ month = 9 ∨ month = 11 then 30
  else 31

/-- `YYYY-MM-DD`. -/
def dayLiteral (cs : List Char) : Option (Day × List Char) := do
  let (year, cs) ← fixedDigits 4 cs
  let cs ← after? ['-'] cs
  let (month, cs) ← fixedDigits 2 cs
  let cs ← after? ['-'] cs
  let (day, cs) ← fixedDigits 2 cs
  guard (1 ≤ month ∧ month ≤ 12 ∧ 1 ≤ day ∧ day ≤ daysInMonth year month)
  return (⟨year, month, day⟩, cs)

/-- `HH:MM:SS` with or without a fraction; a leap second may be written. -/
def clockLiteral (cs : List Char) : Option (Clock × List Char) := do
  let (hour, cs) ← fixedDigits 2 cs
  let cs ← after? [':'] cs
  let (minute, cs) ← fixedDigits 2 cs
  let cs ← after? [':'] cs
  let (second, cs) ← fixedDigits 2 cs
  guard (hour ≤ 23 ∧ minute ≤ 59 ∧ second ≤ 60)
  match cs with
  | '.' :: rest =>
    let ds := rest.takeWhile Char.isDigit
    guard (ds ≠ [])
    return (⟨hour, minute, second, ds⟩, rest.dropWhile Char.isDigit)
  | _ => return (⟨hour, minute, second, []⟩, cs)

/-- An offset from universal time in minutes: `Z`, or a sign with hours and minutes. -/
def offsetLiteral (cs : List Char) : Option (Option Int × List Char) :=
  match cs with
  | [] => some (none, [])
  | c :: rest =>
    if c = 'Z' ∨ c = 'z' then some (some 0, rest)
    else if c = '+' ∨ c = '-' then do
      let (hour, rest) ← fixedDigits 2 rest
      let rest ← after? [':'] rest
      let (minute, rest) ← fixedDigits 2 rest
      guard (hour ≤ 23 ∧ minute ≤ 59)
      let minutes : Int := hour * 60 + minute
      return (some (if c = '-' then -minutes else minutes), rest)
    else some (none, cs)

/-- Does a text begin like a day? -/
def looksLikeDay (cs : List Char) : Bool :=
  match fixedDigits 4 cs with
  | some (_, '-' :: _) => true
  | _ => false

/-- Does a text begin like a time of day? -/
def looksLikeClock (cs : List Char) : Bool :=
  match fixedDigits 2 cs with
  | some (_, ':' :: _) => true
  | _ => false

/-- A day, perhaps followed by a time after `T`, `t` or one blank, or a time alone. -/
def moment (cs : List Char) : Option (Scalar × List Char) :=
  if looksLikeDay cs then do
    let (day, rest) ← dayLiteral cs
    match rest with
    | c :: after =>
      if (c = 'T' ∨ c = 't' ∨ c = ' ') ∧ looksLikeClock after then
        let (clock, rest) ← clockLiteral after
        let (offset, rest) ← offsetLiteral rest
        return (.moment ⟨some day, some clock, offset⟩, rest)
      else return (.moment ⟨some day, none, none⟩, rest)
    | [] => return (.moment ⟨some day, none, none⟩, [])
  else do
    let (clock, rest) ← clockLiteral cs
    return (.moment ⟨none, some clock, none⟩, rest)

/-- A scalar that begins with a digit, a sign or the first letter of `inf`, `nan`, `true` or
`false`. -/
def plainScalar (cs : List Char) : Option (Scalar × List Char) :=
  match cs with
  | 't' :: 'r' :: 'u' :: 'e' :: rest => some (.boolean true, rest)
  | 'f' :: 'a' :: 'l' :: 's' :: 'e' :: rest => some (.boolean false, rest)
  | _ => if looksLikeDay cs || looksLikeClock cs then moment cs else number cs

end ProtoClass.Toml
