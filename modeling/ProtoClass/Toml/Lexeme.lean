import ProtoClass.Toml.Item

set_option autoImplicit false

/- Readers take the rest of the text and give what they read with the rest after it, or nothing when
the text has no such lexeme at its start. -/
namespace ProtoClass.Toml

/-- A reader of the front of a text. -/
abbrev Reader (α : Type) := List Char → Option (α × List Char)

def isBlank (c : Char) : Bool := c == ' ' || c == '\t'

/-- Characters that stand for themselves in comments and literal strings: all but the control
characters of ASCII, of which the tabulator alone is allowed. -/
def isPlain (c : Char) : Bool := c == '\t' || (' ' ≤ c && c ≠ '\x7f')

def isBareKeyChar (c : Char) : Bool := c.isAlphanum || c == '-' || c == '_'

def skipBlanks (cs : List Char) : List Char := cs.dropWhile isBlank

/-- The text after these very characters. -/
def after? : List Char → List Char → Option (List Char)
  | [], cs => some cs
  | x :: xs, c :: cs => if x = c then after? xs cs else none
  | _ :: _, [] => none

/-- A line end is a line feed, alone or after a carriage return. -/
def lineEnd? : List Char → Option (List Char)
  | '\n' :: rest => some rest
  | '\r' :: '\n' :: rest => some rest
  | _ => none

/-- What follows the last thing on a line: blanks, perhaps a comment, then the end of the line or
of the text. -/
def endOfLine? (cs : List Char) : Option (List Char) :=
  let rest :=
    match skipBlanks cs with
    | '#' :: rest => rest.dropWhile isPlain
    | rest => rest
  if rest.isEmpty then some [] else lineEnd? rest

/-- Blanks, line ends and comments, as they may stand between the items of an array. -/
def skipLayout (inComment : Bool) : List Char → List Char
  | [] => []
  | '\r' :: '\n' :: rest => skipLayout false rest
  | c :: rest =>
    if c = '\n' then skipLayout false rest
    else if inComment then if isPlain c then skipLayout true rest else c :: rest
    else if c = '#' then skipLayout true rest
    else if isBlank c then skipLayout false rest
    else c :: rest

def digitValue (c : Char) : Nat :=
  if c.isDigit then c.toNat - '0'.toNat
  else if 'a' ≤ c then c.toNat - 'a'.toNat + 10
  else c.toNat - 'A'.toNat + 10

def numeral (base : Nat) (digits : List Char) : Nat :=
  digits.foldl (fun n c => n * base + digitValue c) 0

def isHexDigit (c : Char) : Bool :=
  c.isDigit || ('a' ≤ c && c ≤ 'f') || ('A' ≤ c && c ≤ 'F')

/-- The digits after the first one; each underscore has to stand between two digits. -/
def moreDigits (isDigit : Char → Bool) : Reader (List Char)
  | '_' :: c :: rest =>
    if isDigit c then do
      let (ds, rest) ← moreDigits isDigit rest
      return (c :: ds, rest)
    else none
  | ['_'] => none
  | c :: rest =>
    if isDigit c then do
      let (ds, rest) ← moreDigits isDigit rest
      return (c :: ds, rest)
    else some ([], c :: rest)
  | [] => some ([], [])

/-- One digit or more, with underscores between digits. -/
def digitRun (isDigit : Char → Bool) : Reader (List Char)
  | [] => none
  | c :: rest =>
    if isDigit c then do
      let (ds, rest) ← moreDigits isDigit rest
      return (c :: ds, rest)
    else none

/-- Exactly `n` decimal digits, as a number. -/
def fixedDigits (n : Nat) (cs : List Char) : Option (Nat × List Char) :=
  let ds := cs.take n
  if ds.length = n ∧ ds.all Char.isDigit then some (numeral 10 ds, cs.drop n) else none

/-- The character with the given number, when there is one. -/
def scalarValue? (n : Nat) : Option Char :=
  if n.isValidChar then some (Char.ofNat n) else none

def hexEscape? (ds : List Char) : Option Char :=
  if ds.all isHexDigit then scalarValue? (numeral 16 ds) else none

def simpleEscape? : Char → Option Char
  | 'b' => some '\x08'
  | 't' => some '\t'
  | 'n' => some '\n'
  | 'f' => some '\x0c'
  | 'r' => some '\r'
  | '"' => some '"'
  | '\\' => some '\\'
  | _ => none

private def prepend (c : Char) (read : Option (List Char × List Char)) :
    Option (List Char × List Char) :=
  read.map fun (text, rest) => (c :: text, rest)

/-- What an escape, after its backslash, stands for. -/
def escapeOnce : Reader Char
  | 'u' :: rest => do
    let ds := rest.take 4
    guard (ds.length = 4)
    return (← hexEscape? ds, rest.drop 4)
  | 'U' :: rest => do
    let ds := rest.take 8
    guard (ds.length = 8)
    return (← hexEscape? ds, rest.drop 8)
  | c :: rest => do return (← simpleEscape? c, rest)
  | [] => none

/-- The rest of a basic string, after the quote that opens it. -/
def basicBody (cs : List Char) : Option (List Char × List Char) :=
  match cs with
  | [] => none
  | '"' :: rest => some ([], rest)
  | '\\' :: rest =>
    match escapeOnce rest with
    | some (c, after) =>
      if after.length < rest.length then prepend c (basicBody after) else none
    | none => none
  | c :: rest => if isPlain c then prepend c (basicBody rest) else none
termination_by cs.length

/-- The rest of a literal string, after the quote that opens it. -/
def literalBody : Reader (List Char)
  | [] => none
  | '\'' :: rest => some ([], rest)
  | c :: rest => if isPlain c then prepend c (literalBody rest) else none

/-- The rest of a multi-line basic string. Up to two quotes may stand before the closing three. A
backslash at the end of a line, here read when `joining`, drops all blanks and line ends after it. -/
def longBasicBody (joining : Bool) (cs : List Char) : Option (List Char × List Char) :=
  match cs with
  | [] => none
  | '"' :: '"' :: '"' :: '"' :: '"' :: rest => some (['"', '"'], rest)
  | '"' :: '"' :: '"' :: '"' :: rest => some (['"'], rest)
  | '"' :: '"' :: '"' :: rest => some ([], rest)
  | '\r' :: '\n' :: rest =>
    if joining then longBasicBody true rest else prepend '\n' (longBasicBody false rest)
  | '\n' :: rest =>
    if joining then longBasicBody true rest else prepend '\n' (longBasicBody false rest)
  | '\\' :: rest =>
    if (lineEnd? (skipBlanks rest)).isSome then longBasicBody true rest
    else
      match escapeOnce rest with
      | some (c, after) =>
        if after.length < rest.length then prepend c (longBasicBody false after) else none
      | none => none
  | c :: rest =>
    if joining && isBlank c then longBasicBody true rest
    else if isPlain c then prepend c (longBasicBody false rest)
    else none
termination_by cs.length

/-- The rest of a multi-line literal string. -/
def longLiteralBody : Reader (List Char)
  | [] => none
  | '\'' :: '\'' :: '\'' :: '\'' :: '\'' :: rest => some (['\'', '\''], rest)
  | '\'' :: '\'' :: '\'' :: '\'' :: rest => some (['\''], rest)
  | '\'' :: '\'' :: '\'' :: rest => some ([], rest)
  | '\r' :: '\n' :: rest => prepend '\n' (longLiteralBody rest)
  | c :: rest =>
    if c = '\n' ∨ isPlain c then prepend c (longLiteralBody rest) else none

/-- A line end right after the opening quotes of a multi-line string is no part of it. -/
def dropLineEnd (cs : List Char) : List Char := (lineEnd? cs).getD cs

/-- A string of any of the four kinds. -/
def textLiteral (cs : List Char) : Option (String × List Char) :=
  let finish (read : Option (List Char × List Char)) : Option (String × List Char) :=
    read.map fun (text, rest) => (String.ofList text, rest)
  match cs with
  | '"' :: '"' :: '"' :: rest => finish (longBasicBody false (dropLineEnd rest))
  | '"' :: rest => finish (basicBody rest)
  | '\'' :: '\'' :: '\'' :: rest => finish (longLiteralBody (dropLineEnd rest))
  | '\'' :: rest => finish (literalBody rest)
  | _ => none

def simpleKey (cs : List Char) : Option (String × List Char) :=
  match cs with
  | '"' :: rest => (basicBody rest).map fun (text, rest) => (String.ofList text, rest)
  | '\'' :: rest => (literalBody rest).map fun (text, rest) => (String.ofList text, rest)
  | _ =>
    let name := cs.takeWhile isBareKeyChar
    if name.isEmpty then none else some (String.ofList name, cs.dropWhile isBareKeyChar)

/-- Simple keys with dots between them and blanks around each; at most `limit` of them. -/
def keyPath : Nat → Reader (List String)
  | 0, _ => none
  | limit + 1, cs => do
    let (name, rest) ← simpleKey (skipBlanks cs)
    match skipBlanks rest with
    | '.' :: rest => do
      let (names, rest) ← keyPath limit rest
      return (name :: names, rest)
    | rest => return ([name], rest)

end ProtoClass.Toml
