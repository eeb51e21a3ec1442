import ProtoClass.Number.Binary64
import ProtoClass.Ref

set_option autoImplicit false

namespace ProtoClass

inductive Value where
  | undefined
  | null
  | boolean (b : Bool)
  | integer (i : Int32)
  | number (x : Binary64)
  | string (s : StringRef)
  | object (o : ObjectRef)
  | function (f : FunctionRef)
  | klass (c : ClassRef)
  deriving DecidableEq

instance : Inhabited Value := ⟨.undefined⟩

namespace Value

/-- The name of the kind of a value; the two kinds of numbers share one. -/
def kindName : Value → String
  | undefined => "undefined"
  | null => "null"
  | boolean _ => "boolean"
  | integer _ => "number"
  | number _ => "number"
  | string _ => "string"
  | object _ => "object"
  | function _ => "function"
  | klass _ => "class"

def isNullish : Value → Bool
  | undefined => true
  | null => true
  | _ => false

def object? : Value → Option ObjectRef
  | object o => some o
  | _ => none

def string? : Value → Option StringRef
  | string s => some s
  | _ => none

def function? : Value → Option FunctionRef
  | function f => some f
  | _ => none

def klass? : Value → Option ClassRef
  | klass c => some c
  | _ => none

def integer? : Value → Option Int32
  | integer i => some i
  | _ => none

def boolean? : Value → Option Bool
  | boolean b => some b
  | _ => none

end Value

end ProtoClass
