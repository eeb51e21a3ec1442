import ProtoClass.Toml.Number

set_option autoImplicit false

/- A document is a list of sections: the pairs before the first header and those under each header. Its
tree puts the sections together, and refuses keys and tables that are defined twice. -/
namespace ProtoClass.Toml

/-- Arrays and inline tables may be nested below this depth. -/
def depthLimit : Nat := 80

/-- A key has fewer parts than this. -/
def keyLimit : Nat := 80

/-- The items of an array after its opening bracket, each read by `item`. -/
def arrayItems (item : Reader Item) : Nat → Reader (List Item)
  | 0, _ => none
  | fuel + 1, cs =>
    match skipLayout false cs with
    | ']' :: rest => some ([], rest)
    | cs => do
      let (first, cs) ← item cs
      match skipLayout false cs with
      | ']' :: rest => return ([first], rest)
      | ',' :: rest => do
        let (others, rest) ← arrayItems item fuel rest
        return (first :: others, rest)
      | _ => none

/-- A pair: a key path, an equals sign and a value. -/
def pair (item : Reader Item) (cs : List Char) :
    Option ((List String × Item) × List Char) := do
  let (path, cs) ← keyPath (keyLimit - 1) cs
  let cs ← after? ['='] cs
  let (value, cs) ← item (skipBlanks cs)
  return ((path, value), cs)

/-- Adds a pair with a whole path to a table. -/
def Entries.addPath (entries : Entries) (path : List String) (value : Item) : Option Entries := do
  let key ← path.getLast?
  entries.addPair path.dropLast key value

/-- The pairs of an inline table after its first one has been announced. -/
def inlinePairs (item : Reader Item) : Nat → Entries → Reader Entries
  | 0, _, _ => none
  | fuel + 1, entries, cs => do
    let ((path, value), cs) ← pair item cs
    let entries ← entries.addPath path value
    match skipBlanks cs with
    | '}' :: rest => return (entries, rest)
    | ',' :: rest => inlinePairs item fuel entries rest
    | _ => none

/-- The pairs of an inline table after its opening brace. -/
def inlineEntries (item : Reader Item) (cs : List Char) : Option (Entries × List Char) :=
  match skipBlanks cs with
  | '}' :: rest => some ([], rest)
  | _ => inlinePairs item (cs.length + 1) [] cs

/-- A value in which arrays and inline tables are nested at most `depth` deep. -/
def value : Nat → Reader Item
  | depth, cs =>
    match cs with
    | '[' :: rest =>
      match depth with
      | 0 => none
      | depth + 1 => do
        let (items, rest) ← arrayItems (value depth) (rest.length + 1) rest
        return (.array items, rest)
    | '{' :: rest =>
      match depth with
      | 0 => none
      | depth + 1 => do
        let (entries, rest) ← inlineEntries (value depth) rest
        return (.table .closed entries, rest)
    | c :: _ =>
      if c = '"' ∨ c = '\'' then (textLiteral cs).map fun (s, rest) => (.scalar (.text s), rest)
      else (plainScalar cs).map fun (s, rest) => (.scalar s, rest)
    | [] => none

/-- What stands above the pairs of a section: nothing at the start of the text, else a header with
its path, which is repeatable when its brackets are doubled. -/
structure Header where
  path : List String
  repeatable : Bool

structure Section where
  header : Option Header
  pairs : List (List String × Item)

/-- A header line. -/
def header (cs : List Char) : Option (Header × List Char) :=
  match cs with
  | '[' :: '[' :: rest => do
    let (path, rest) ← keyPath (keyLimit - 1) rest
    let rest ← after? [']', ']'] rest
    return (⟨path, true⟩, ← endOfLine? rest)
  | '[' :: rest => do
    let (path, rest) ← keyPath (keyLimit - 1) rest
    let rest ← after? [']'] rest
    return (⟨path, false⟩, ← endOfLine? rest)
  | _ => none

/-- The lines of a text, gathered into sections; `current` is the one being read, its pairs in
reverse. -/
def sections : Nat → Section → List Char → Option (List Section)
  | 0, _, _ => none
  | fuel + 1, current, cs =>
    let closed : Section := { current with pairs := current.pairs.reverse }
    match skipBlanks cs with
    | [] => some [closed]
    | '#' :: rest => do sections fuel current (← endOfLine? ('#' :: rest))
    | '\n' :: rest => sections fuel current rest
    | '\r' :: '\n' :: rest => sections fuel current rest
    | '[' :: rest => do
      let (h, rest) ← header ('[' :: rest)
      return closed :: (← sections fuel ⟨some h, []⟩ rest)
    | cs => do
      let (p, rest) ← pair (value (depthLimit - 1)) cs
      sections fuel { current with pairs := p :: current.pairs } (← endOfLine? rest)

def addPairs (pairs : List (List String × Item)) (entries : Entries) : Option Entries :=
  pairs.foldlM (fun es (path, v) => es.addPath path v) entries

/-- Puts one section into the tree. A table may get one header, and a repeated header names either
tables or nothing yet. -/
def addSection (root : Entries) (s : Section) : Option Entries :=
  match s.header with
  | none => addPairs s.pairs root
  | some h => do
    let key ← h.path.getLast?
    root.alter false
      (fun _ parent =>
        if h.repeatable then do
          let written ← addPairs s.pairs []
          match parent.get? key with
          | none => return parent.put key (.tables [] written)
          | some (.tables earlier current) =>
            return parent.put key (.tables (earlier ++ [current]) written)
          | some _ => none
        else do
          let entries ← addPairs s.pairs (← parent.reopened? key)
          return parent.put key (.table .header entries))
      h.path.dropLast .header

/-- The tree of a document; a byte order mark may stand in front. -/
def parse (text : String) : Option Entries := do
  let cs := text.toList
  let cs := (after? ['\uFEFF'] cs).getD cs
  let parts ← sections (cs.length + 1) ⟨none, []⟩ cs
  parts.foldlM addSection []

end ProtoClass.Toml
