import ProtoClass.Definition
import ProtoClass.Options
import ProtoClass.Property.Table
import ProtoClass.Registry

set_option autoImplicit false

/- The heap holds everything that values can refer to: objects, functions, strings, classes and the
descriptors of classes; and the state of the runtimes that share it. It is a value, so an operation
on it is a function from heaps to heaps. -/
namespace ProtoClass

/-- A number that a counter issued to one thing. -/
structure Identity where
  issuer : CounterRef
  number : Int32
  deriving DecidableEq

/-- The things that have an identity. A class has that of the object of its statics. -/
inductive Identified where
  | object (o : ObjectRef)
  | function (f : FunctionRef)
  | klass (c : ClassRef)
  deriving DecidableEq

structure ObjectCell where
  properties : PropertyTable := .empty
  /-- Where a property is looked for that the object has not itself; fixed for ever. -/
  prototype : Option ObjectRef := none
  /-- The class whose prototype this object is. -/
  boundClass : Option ClassRef := none
  /-- The identity of the object, once someone has asked for it. -/
  identity : Option Identity := none

instance : Inhabited ObjectCell := ⟨{}⟩

/-- The functions that a runtime brings along. -/
inductive Builtin where
  | objectHashCode
  | objectEquals
  | objectToString
  | objectGetClass
  | stringHashCode
  | stringStartsWith
  | stringEndsWith
  | descriptorNew
  | descriptorGetName
  | descriptorGetSimpleName
  | descriptorToString
  | descriptorGetSuperclass
  | descriptorGetAnnotations
  | descriptorIsAssignableFrom
  | descriptorIsInstance
  | classToString (className : String)
  | socketConnect
  deriving DecidableEq

/-- What a function does when it is called: something built in, or the program with this number. -/
inductive Code where
  | builtin (b : Builtin)
  | program (index : Nat)
  deriving DecidableEq

structure FunctionCell where
  name : String
  code : Code
  identity : Option Identity := none
  deriving DecidableEq

instance : Inhabited FunctionCell := ⟨"", .program 0, none⟩

structure StringCell where
  units : List UInt16
  /-- The content hash, once someone has asked for it. -/
  hash : Option Int32 := none
  deriving DecidableEq

instance : Inhabited StringCell := ⟨[], none⟩

structure ClassCell where
  name : String
  /-- Every class but a root has one. -/
  superclass : Option ClassRef
  prototype : ObjectRef
  /-- The object that holds the static members; its identity is that of the class. -/
  statics : ObjectRef
  annotations : ObjectRef
  /-- The descriptor of the class, once someone has asked for it. -/
  descriptor : Option DescriptorRef := none
  deriving DecidableEq

instance : Inhabited ClassCell := ⟨"", none, ⟨0⟩, ⟨0⟩, ⟨0⟩, none⟩

/-- What a class was when its descriptor was made. -/
structure DescriptorCell where
  /-- The object that stands for the descriptor among values. -/
  object : ObjectRef
  name : String
  prototype : ObjectRef
  annotations : ObjectRef
  superclass : Option DescriptorRef
  deriving DecidableEq

instance : Inhabited DescriptorCell := ⟨⟨0⟩, "", ⟨0⟩, ⟨0⟩, none⟩

/-- A type that the host provides and no definition made. -/
structure HostType where
  name : String
  /-- The object that holds the static members. -/
  constructor : ObjectRef
  /-- The object that instances delegate to. -/
  prototype : ObjectRef
  /-- The function that makes instances. -/
  create : Option FunctionRef
  deriving DecidableEq

structure RuntimeCell where
  options : Options
  counter : CounterRef
  registry : RegistryRef
  hosts : List (String × HostType) := []
  root : ClassRef
  /-- The class of all descriptor objects; set when the runtime has defined it. -/
  metadataClass : Option ClassRef := none

instance : Inhabited RuntimeCell := ⟨{}, ⟨0⟩, ⟨0⟩, [], ⟨0⟩, none⟩

structure Heap where
  objects : Arena .object ObjectCell := {}
  functions : Arena .function FunctionCell := {}
  strings : Arena .string StringCell := {}
  classes : Arena .klass ClassCell := {}
  descriptors : Arena .descriptor DescriptorCell := {}
  /-- For each counter how many identities it has issued. -/
  counters : Arena .counter Int32 := {}
  registries : Arena .registry Registry := {}
  runtimes : Arena .runtime RuntimeCell := {}

namespace Heap

def object (h : Heap) (o : ObjectRef) : ObjectCell := h.objects.get o

def function (h : Heap) (f : FunctionRef) : FunctionCell := h.functions.get f

def string (h : Heap) (s : StringRef) : StringCell := h.strings.get s

def klass (h : Heap) (c : ClassRef) : ClassCell := h.classes.get c

def descriptor (h : Heap) (d : DescriptorRef) : DescriptorCell := h.descriptors.get d

/-- The number of identities that a counter has issued. -/
def issued (h : Heap) (k : CounterRef) : Int32 := h.counters.get k

def registry (h : Heap) (r : RegistryRef) : Registry := h.registries.get r

def runtime (h : Heap) (rt : RuntimeRef) : RuntimeCell := h.runtimes.get rt

/-- The registry of a runtime. -/
def registryOf (h : Heap) (rt : RuntimeRef) : Registry := h.registry (h.runtime rt).registry

/-- The prototype of the root class of a runtime. -/
def rootPrototype (h : Heap) (rt : RuntimeRef) : ObjectRef :=
  (h.klass (h.runtime rt).root).prototype

/-- The class registered under a name. -/
def classNamed (h : Heap) (rt : RuntimeRef) (name : String) : Option ClassRef :=
  (h.registryOf rt).get? name

def hostNamed (h : Heap) (rt : RuntimeRef) (name : String) : Option HostType :=
  (h.runtime rt).hosts.lookup name

/-- The identity that a thing already has. -/
def identity? (h : Heap) : Identified → Option Identity
  | .object o => (h.object o).identity
  | .function f => (h.function f).identity
  | .klass c => (h.object (h.klass c).statics).identity

end Heap

/- A reference is live when the heap holds what it names. -/

namespace Heap

def hasValue (h : Heap) : Value → Bool
  | .string s => h.strings.isLive s
  | .object o => h.objects.isLive o
  | .function f => h.functions.isLive f
  | .klass c => h.classes.isLive c
  | _ => true

def hasEntries (h : Heap) (entries : List (String × Value)) : Bool :=
  entries.all fun e => h.hasValue e.2

def hasIdentified (h : Heap) : Identified → Bool
  | .object o => h.objects.isLive o
  | .function f => h.functions.isLive f
  | .klass c => h.classes.isLive c

def hasDefinition (h : Heap) (d : Definition) : Bool :=
  h.hasEntries d.members && h.hasEntries d.statics && d.initializer.all h.functions.isLive &&
    h.hasEntries (d.annotations.getD [])

end Heap

end ProtoClass
