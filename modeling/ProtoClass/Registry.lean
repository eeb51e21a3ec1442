import ProtoClass.Error
import ProtoClass.Ref
import Std.Data.TreeMap

set_option autoImplicit false

namespace ProtoClass

structure Registry where
  classes : Std.TreeMap String ClassRef := ∅
  order : Array String := #[]

namespace Registry

instance : Inhabited Registry := ⟨{}⟩

def get? (r : Registry) (name : String) : Option ClassRef := r.classes[name]?

def contains (r : Registry) (name : String) : Bool := r.classes.contains name

def size (r : Registry) : Nat := r.classes.size

def isEmpty (r : Registry) : Bool := r.classes.isEmpty

/-- The registered names in the order of their first registration. -/
def names (r : Registry) : List String := r.order.toList

/-- Registers a class under a name; gives the class that it replaces. -/
def register (r : Registry) (name : String) (c : ClassRef) : Option ClassRef × Registry :=
  let previous := r.get? name
  (previous, ⟨r.classes.insert name c, if previous.isNone then r.order.push name else r.order⟩)

/-- The class that a definition of `className` names as its superclass: the root for the empty name,
else the class registered under the name. -/
def resolve (r : Registry) (className superclassName : String) (root : ClassRef) :
    Except Error ClassRef :=
  if superclassName = "" then .ok root
  else
    match r.get? superclassName with
    | some c => .ok c
    | none => .error (.unresolvedSuperclass className superclassName)

theorem get?_empty (name : String) : ({} : Registry).get? name = none := by
  simp [get?]

theorem get?_register (r : Registry) (name other : String) (c : ClassRef) :
    (r.register name c).2.get? other = if other = name then some c else r.get? other := by
  by_cases h : other = name
  · simp [register, get?, h]
  · simp [register, get?, Std.TreeMap.getElem?_insert, h, Ne.symm h]

theorem names_register (r : Registry) (name : String) (c : ClassRef) :
    (r.register name c).2.names = if (r.get? name).isSome then r.names else r.names ++ [name] := by
  cases found : r.get? name <;> simp [register, names, found]

theorem resolve_empty (r : Registry) (className : String) (root : ClassRef) :
    r.resolve className "" root = .ok root := by
  simp [resolve]

end Registry

end ProtoClass
