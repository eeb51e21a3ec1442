import ProtoClass.Error
import ProtoClass.Named
import ProtoClass.Value

set_option autoImplicit false

/- A class is described by its name, the name of its superclass and ordered tables of members, statics
and annotations. `Definition.parse` reads the flat form, in which a marker in front of a key makes it
static and the bare marker is the key of the static initializer; the functions after it build a
definition entry by entry. -/
namespace ProtoClass

structure Definition where
  name : String
  /-- The name of the superclass; the empty name selects the root. -/
  superclass : String := ""
  members : List (String × Value) := []
  statics : List (String × Value) := []
  initializer : Option FunctionRef := none
  annotations : Option (List (String × Value)) := none
  deriving DecidableEq

namespace Definition

def extending (d : Definition) (superclass : String) : Definition :=
  { d with superclass := superclass }

/-- Adds a member, or gives an earlier one of the same name another value. -/
def member (d : Definition) (name : String) (value : Value) : Definition :=
  { d with members := Named.put name value d.members }

/-- Adds a static, or gives an earlier one of the same name another value. -/
def static (d : Definition) (name : String) (value : Value) : Definition :=
  { d with statics := Named.put name value d.statics }

/-- Adds an annotation, or gives an earlier one of the same name another value. -/
def annotation (d : Definition) (name : String) (value : Value) : Definition :=
  { d with annotations := some (Named.put name value (d.annotations.getD [])) }

def initializedBy (d : Definition) (f : FunctionRef) : Definition :=
  { d with initializer := some f }

/-- The name of a static initializer that is made for this definition. -/
def initializerName (d : Definition) : String := d.name ++ ".<clinit>"

/-- The key after the marker, when the key begins with it. -/
def unmarked? (marker : Char) (key : String) : Option String :=
  match key.toList with
  | c :: rest => if c = marker then some (String.ofList rest) else none
  | [] => none

/-- Adds one entry of the flat form. -/
def addEntry (marker : Char) (d : Definition) (entry : String × Value) :
    Except Error Definition :=
  match unmarked? marker entry.1 with
  | none => .ok (d.member entry.1 entry.2)
  | some key =>
    if key = "" then
      match entry.2 with
      | .function f => .ok (d.initializedBy f)
      | other => .error (.typeError (.initializerNotFunction d.name other.kindName))
    else .ok (d.static key entry.2)

/-- Reads the flat form of a definition. -/
def parse (name superclass : String) (entries : List (String × Value))
    (annotations : Option (List (String × Value))) (marker : Char) : Except Error Definition :=
  entries.foldlM (addEntry marker) { name, superclass, annotations }

end Definition

/-- The part of a name after its last dot; the whole name when it has none. -/
def simpleName (name : String) : String :=
  String.ofList (name.toList.reverse.takeWhile (· ≠ '.')).reverse

end ProtoClass
