import ProtoClass.Value

set_option autoImplicit false

namespace ProtoClass

structure Flags where
  /-- May the property be deleted or defined anew? -/
  configurable : Bool
  /-- Is its name listed among the keys? -/
  enumerable : Bool
  /-- May another value be assigned? -/
  writable : Bool
  deriving DecidableEq

namespace Flags

/-- The flags that plain assignment gives to a new property. -/
def plain : Flags := ⟨true, true, true⟩

/-- The flags of an installed property: pinned and hidden, but writable. -/
def hidden : Flags := ⟨false, false, true⟩

end Flags

structure Property where
  name : String
  value : Value
  flags : Flags
  deriving DecidableEq

end ProtoClass
