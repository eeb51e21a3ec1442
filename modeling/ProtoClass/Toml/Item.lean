import ProtoClass.Named

set_option autoImplicit false

/- A TOML document is a table of named items: scalars, arrays and further tables. Every table remembers
how it came to be, because that decides what may still be added to it. -/
namespace ProtoClass.Toml

/-- A calendar day that exists. -/
structure Day where
  year : Nat
  month : Nat
  day : Nat
  deriving DecidableEq

/-- A time of day, with the digits of the fraction of a second. -/
structure Clock where
  hour : Nat
  minute : Nat
  second : Nat
  fraction : List Char
  deriving DecidableEq

/-- A local day, a local time, or both with or without an offset from universal time in minutes. -/
structure Moment where
  day : Option Day
  clock : Option Clock
  offset : Option Int
  deriving DecidableEq

/-- A floating-point literal: its exact decimal value, an infinity, or not a number. -/
inductive Real where
  | decimal (negative : Bool) (coefficient : Nat) (exponent : Int)
  | infinite (negative : Bool)
  | nan
  deriving DecidableEq

inductive Scalar where
  | text (s : String)
  | integer (i : Int)
  | real (r : Real)
  | boolean (b : Bool)
  | moment (m : Moment)
  deriving DecidableEq

/-- How a table came to be: written under a header of its own, only passed through by a header,
only passed through by a dotted key, or written inline. -/
inductive Origin where
  | header
  | passed
  | dotted
  | closed
  deriving DecidableEq

/-- What a key names: a scalar, an array, a table, or the tables of a repeated header, of which
the last one written is `current`. -/
inductive Item where
  | scalar (value : Scalar)
  | array (items : List Item)
  | table (origin : Origin) (entries : List (String × Item))
  | tables (earlier : List (List (String × Item))) (current : List (String × Item))

abbrev Entries := List (String × Item)

namespace Entries

def get? (entries : Entries) (key : String) : Option Item := entries.lookup key

def put (entries : Entries) (key : String) (item : Item) : Entries := Named.put key item entries

/-- Follows `path` from a table with the given origin and changes the table it ends in. Missing
tables are made on the way; a path may not lead through a value, and a dotted one not through a
table that has a header. In the tables of a repeated header the last one is meant. -/
def alter (dotted : Bool) (change : Origin → Entries → Option Entries) :
    List String → Origin → Entries → Option Entries
  | [], origin, entries => change origin entries
  | key :: path, _, entries =>
    match entries.get? key with
    | none => do
      let origin := if dotted then Origin.dotted else .passed
      let made ← alter dotted change path origin []
      return entries.put key (.table origin made)
    | some (.table origin inner) =>
      if origin = .closed ∨ dotted = true ∧ origin = .header then none
      else do
        let inner ← alter dotted change path origin inner
        return entries.put key (.table origin inner)
    | some (.tables earlier current) => do
      let current ← alter dotted change path .header current
      return entries.put key (.tables earlier current)
    | some _ => none

/-- Adds `path.key = item` to a table. The key has to be new, and what a dotted path leads to may
only be a table that dotted keys alone have made. -/
def addPair (path : List String) (key : String) (item : Item) (entries : Entries) :
    Option Entries :=
  alter true
    (fun origin inner =>
      if path ≠ [] ∧ origin ≠ .dotted ∨ (inner.get? key).isSome then none
      else some (inner ++ [(key, item)]))
    path .header entries

/-- The entries that a header `[path.key]` goes on from: those of a table that other headers have
only passed through, otherwise none. -/
def reopened? (key : String) (entries : Entries) : Option Entries :=
  match entries.get? key with
  | none => some []
  | some (.table .passed inner) => some inner
  | some _ => none

end Entries

end ProtoClass.Toml
