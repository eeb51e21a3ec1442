import ProtoClass.Run.Describe
import ProtoClass.Run.Dispatch
import ProtoClass.Run.Hosts

set_option autoImplicit false

namespace ProtoClass

/-- A text as a new string value. -/
def Action.text {σ : Type} (t : String) : Action σ Value := do
  return .string (← Action.update (Update.newText t))

namespace Setting

variable {σ : Type} (s : Setting σ)

/-- The identity of things that have one, the content hash of strings, and integers themselves. -/
def objectHashCode (rt : RuntimeRef) (this : Value) : Action σ Value := do
  let counter := ((← Action.heap).runtime rt).counter
  match this with
  | .object o => return .integer (← Action.tryUpdate (Update.identityOf counter (.object o)))
  | .klass c => return .integer (← Action.tryUpdate (Update.identityOf counter (.klass c)))
  | .function f => return .integer (← Action.tryUpdate (Update.identityOf counter (.function f)))
  | .string t => return .integer (← Action.update (Update.hashOf t))
  | .integer i => return .integer i
  | other => Action.fail (.typeError (.noHashCode other.kindName))

/-- The simple name of the class of an object and, after `#`, its hash code, whatever function gives
that; for other values their text. -/
def objectToString (rt : RuntimeRef) (this : Value) : Action σ Value := do
  match this with
  | .object o =>
    let h ← Action.heap
    let c := (h.owningClass o).getD (h.runtime rt).root
    let hash ← s.invoke rt this "hashCode" []
    Action.text (simpleName (h.klass c).name ++ "#" ++ (← Action.heap).display hash)
  | other => Action.text ((← Action.heap).display other)

/-- The two strings that a test of prefix or suffix is about. -/
def stringArguments (context : String) (missing : TypeError) (this : Value) (args : List Value) :
    Action σ (List UInt16 × List UInt16) := do
  let t ← Action.ofExcept (Heap.expectString context this)
  match args.head? with
  | none => Action.fail (.typeError missing)
  | some arg =>
    let u ← Action.ofExcept (Heap.expectString context arg)
    let h ← Action.heap
    return ((h.string t).units, (h.string u).units)

/-- The text of the name that a descriptor object holds; empty when it holds none. -/
def descriptorName (member : String) (this : Value) : Action σ String := do
  let o ← Action.ofExcept (Heap.expectObject member this)
  let h ← Action.heap
  return ((h.get o "name").map h.display).getD ""

/-- Fills a new descriptor object. -/
def descriptorNew (this : Value) (args : List Value) : Action σ Value := do
  let o ← Action.ofExcept (Heap.expectObject "metadata constructor" this)
  let _ ← s.set o "name" (args[0]?.getD .null)
  let _ ← s.set o "prototype" (args[1]?.getD .null)
  let _ ← s.set o "annotations" (args[2]?.getD .null)
  let _ ← s.set o "superclass" (args[3]?.getD .null)
  return .undefined

/-- What a slot of a descriptor object holds, null when it is missing. -/
def descriptorSlot (member slot : String) (this : Value) : Action σ Value := do
  let o ← Action.ofExcept (Heap.expectObject member this)
  return ((← Action.heap).get o slot).getD .null

def descriptorIsAssignableFrom (this : Value) (args : List Value) : Action σ Value := do
  let o ← Action.ofExcept (Heap.expectObject "isAssignableFrom" this)
  match args.head? with
  | some (.object other) =>
    return .boolean (← Action.ofOption ((← Action.heap).spineContains other o))
  | some other => Action.fail (.typeError (.notDescriptor other.kindName))
  | none => return .boolean false

def descriptorIsInstance (rt : RuntimeRef) (this : Value) (args : List Value) :
    Action σ Value := do
  let o ← Action.ofExcept (Heap.expectObject "isInstance" this)
  match ← (s.getClass rt (args.head?.getD .undefined)).attempt with
  | .ok d =>
    let h ← Action.heap
    return .boolean (← Action.ofOption (h.spineContains (h.descriptor d).object o))
  | .error (.noClass _) => return .boolean false
  | .error e => Action.fail e

/-- What a built-in function does. -/
def runBuiltin (b : Builtin) (rt : RuntimeRef) (this : Value) (args : List Value) :
    Action σ Value :=
  match b with
  | .objectHashCode => objectHashCode rt this
  | .objectEquals => do
    return .boolean ((← Action.heap).looseEqual this (args.head?.getD .undefined))
  | .objectToString => s.objectToString rt this
  | .objectGetClass => do
    let d ← s.getClass rt this
    return .object ((← Action.heap).descriptor d).object
  | .stringHashCode => do
    let t ← Action.ofExcept (Heap.expectString "String.hashCode" this)
    return .integer (← Action.update (Update.hashOf t))
  | .stringStartsWith => do
    let (t, u) ← stringArguments "String.startsWith" .missingPrefix this args
    return .boolean (Utf16.startsWith t u)
  | .stringEndsWith => do
    let (t, u) ← stringArguments "String.endsWith" .missingSuffix this args
    return .boolean (Utf16.endsWith t u)
  | .descriptorNew => s.descriptorNew this args
  | .descriptorGetName => do Action.text (← descriptorName "getName" this)
  | .descriptorGetSimpleName => do
    Action.text (simpleName (← descriptorName "getSimpleName" this))
  | .descriptorToString => do Action.text ("class " ++ (← descriptorName "toString" this))
  | .descriptorGetSuperclass => descriptorSlot "getSuperclass" "superclass" this
  | .descriptorGetAnnotations => descriptorSlot "getAnnotations" "annotations" this
  | .descriptorIsAssignableFrom => descriptorIsAssignableFrom this args
  | .descriptorIsInstance => s.descriptorIsInstance rt this args
  | .classToString name => Action.text ("Class " ++ name)
  | .socketConnect => s.socketConnect rt args

end Setting

end ProtoClass
