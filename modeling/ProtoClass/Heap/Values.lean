import ProtoClass.Heap.Basic
import ProtoClass.Number.Text
import ProtoClass.Text.Utf16

set_option autoImplicit false

namespace ProtoClass.Heap

/-- Zero, NaN, the empty string and the absent values are false, all else is true. -/
def isTruthy (h : Heap) : Value → Bool
  | .undefined => false
  | .null => false
  | .boolean b => b
  | .integer i => i != 0
  | .number x => x.isTruthy
  | .string s => !(h.string s).units.isEmpty
  | .object _ => true
  | .function _ => true
  | .klass _ => true

/-- Equality of primitives by value and of references by identity. The two absent values are equal,
and an integer equals the number of its value. -/
def looseEqual (h : Heap) : Value → Value → Bool
  | .undefined, b => b.isNullish
  | .null, b => b.isNullish
  | .boolean a, .boolean b => a == b
  | .integer a, .integer b => a == b
  | .integer a, .number y => y.equalsInt a.toInt
  | .number x, .integer b => x.equalsInt b.toInt
  | .number x, .number y => x.equal y
  | .string a, .string b => (h.string a).units == (h.string b).units
  | .object a, .object b => a == b
  | .function a, .function b => a == b
  | .klass a, .klass b => a == b
  | _, _ => false

def displayClass (h : Heap) (c : ClassRef) : String := "Class " ++ (h.klass c).name

def displayDescriptor (h : Heap) (d : DescriptorRef) : String := "class " ++ (h.descriptor d).name

/-- The text of a value, which also selects constructor variants. -/
def display (h : Heap) : Value → String
  | .undefined => "undefined"
  | .null => "null"
  | .boolean b => if b then "true" else "false"
  | .integer i => toString i.toInt
  | .number x => x.display
  | .string s => Utf16.decode (h.string s).units
  | .object _ => "[object]"
  | .function f => "function " ++ (h.function f).name
  | .klass c => h.displayClass c

/-- The object that a value is, or an error that names the context. -/
def expectObject (context : String) (v : Value) : Except Error ObjectRef :=
  match v with
  | .object o => .ok o
  | other => .error (.typeError (.notObject context other.kindName))

/-- The string that a value is, or an error that names the context. -/
def expectString (context : String) (v : Value) : Except Error StringRef :=
  match v with
  | .string s => .ok s
  | other => .error (.typeError (.notString context other.kindName))

end ProtoClass.Heap
