import ProtoClass.Heap.Chain
import ProtoClass.Heap.Values
import ProtoClass.Text.ContentHash

set_option autoImplicit false

namespace ProtoClass

/-- An operation on the heap. -/
abbrev Update (α : Type) := StateM Heap α

namespace Update

def newObject (prototype : Option ObjectRef) : Update ObjectRef := fun h =>
  (h.objects.fresh, { h with objects := h.objects.add { prototype } })

def newFunction (name : String) (code : Code) : Update FunctionRef := fun h =>
  (h.functions.fresh, { h with functions := h.functions.add { name, code } })

def newString (units : List UInt16) : Update StringRef := fun h =>
  (h.strings.fresh, { h with strings := h.strings.add { units } })

def newText (s : String) : Update StringRef := newString (Utf16.encode s)

def newClass (cell : ClassCell) : Update ClassRef := fun h =>
  (h.classes.fresh, { h with classes := h.classes.add cell })

def newDescriptor (cell : DescriptorCell) : Update DescriptorRef := fun h =>
  (h.descriptors.fresh, { h with descriptors := h.descriptors.add cell })

def newCounter : Update CounterRef := fun h =>
  (h.counters.fresh, { h with counters := h.counters.add 0 })

def newRegistry : Update RegistryRef := fun h =>
  (h.registries.fresh, { h with registries := h.registries.add {} })

def newRuntimeCell (cell : RuntimeCell) : Update RuntimeRef := fun h =>
  (h.runtimes.fresh, { h with runtimes := h.runtimes.add cell })

def modifyObject (o : ObjectRef) (f : ObjectCell → ObjectCell) : Update Unit := fun h =>
  ((), { h with objects := h.objects.modify o f })

def modifyClass (c : ClassRef) (f : ClassCell → ClassCell) : Update Unit := fun h =>
  ((), { h with classes := h.classes.modify c f })

/-- Changes the properties of an object by an operation that says whether it was accepted. -/
def changeProperties (o : ObjectRef) (f : PropertyTable → Bool × PropertyTable) : Update Bool :=
  fun h =>
    let result := f (h.object o).properties
    (result.1,
      { h with objects := h.objects.modify o fun cell => { cell with properties := result.2 } })

def set (o : ObjectRef) (name : String) (value : Value) : Update Bool :=
  changeProperties o fun t => t.set name value

def define (o : ObjectRef) (name : String) (value : Value) (flags : Flags) : Update Bool :=
  changeProperties o fun t => t.define name value flags

def delete (o : ObjectRef) (name : String) : Update Bool :=
  changeProperties o fun t => t.delete name

/-- Assigns entries one after another. -/
def setAll (o : ObjectRef) : List (String × Value) → Update Unit
  | [] => pure ()
  | (name, value) :: rest => do
    let _ ← set o name value
    setAll o rest

/-- An object with plain properties. -/
def newObjectOf (prototype : Option ObjectRef) (entries : List (String × Value)) :
    Update ObjectRef := do
  let o ← newObject prototype
  setAll o entries
  return o

/-- Marks an object as the prototype of a class, unless it is already that of some class. -/
def bindClass (o : ObjectRef) (c : ClassRef) : Update Unit :=
  modifyObject o fun cell => { cell with boundClass := some (cell.boundClass.getD c) }

/-- Installs one property, pinned and hidden: only where the target sees no truthy value of that
name, neither its own nor through its chain. -/
def installOne (target : ObjectRef) (name : String) (value : Value) : Update Bool := do
  let h ← get
  match h.get target name with
  | some existing =>
    if h.isTruthy existing then return false else define target name value .hidden
  | none => define target name value .hidden

/-- Installs properties one after another; gives the number of those installed. -/
def install (target : ObjectRef) : List (String × Value) → Update Nat
  | [] => pure 0
  | (name, value) :: rest => do
    let done ← installOne target name value
    let count ← install target rest
    return if done then count + 1 else count

/-- Writes the identity of a thing. -/
def assignIdentity (x : Identified) (id : Identity) : Update Unit := fun h =>
  match x with
  | .object o =>
    ((), { h with objects := h.objects.modify o fun cell => { cell with identity := some id } })
  | .function f =>
    ((), { h with functions := h.functions.modify f fun cell => { cell with identity := some id } })
  | .klass c =>
    ((), { h with objects := h.objects.modify (h.klass c).statics fun cell =>
      { cell with identity := some id } })

/-- The next number of a counter, as long as there is one after it. -/
def draw (k : CounterRef) : Update (Except Error Int32) := do
  let h ← get
  if h.issued k = Int32.maxValue then return .error .identitiesExhausted
  else
    modify fun h => { h with counters := h.counters.modify k (· + 1) }
    return .ok (h.issued k)

/-- The identity of a thing; when it has none yet, the counter issues one. -/
def identityOf (k : CounterRef) (x : Identified) : Update (Except Error Int32) := do
  let h ← get
  match h.identity? x with
  | some id => return .ok id.number
  | none =>
    match ← draw k with
    | .ok n =>
      assignIdentity x ⟨k, n⟩
      return .ok n
    | .error e => return .error e

/-- The content hash of a string, which the string remembers. -/
def hashOf (s : StringRef) : Update Int32 := do
  let h ← get
  match (h.string s).hash with
  | some n => return n
  | none =>
    let n := contentHash (h.string s).units
    modify fun h => { h with strings := h.strings.modify s fun cell => { cell with hash := some n } }
    return n

/-- Registers a class under its name; gives the class that it replaces. -/
def register (r : RegistryRef) (c : ClassRef) : Update (Option ClassRef) := fun h =>
  let result := (h.registry r).register (h.klass c).name c
  (result.1, { h with registries := h.registries.modify r fun _ => result.2 })

def modifyRuntime (rt : RuntimeRef) (f : RuntimeCell → RuntimeCell) : Update Unit := fun h =>
  ((), { h with runtimes := h.runtimes.modify rt f })

/-- Sets the metadata class of a runtime. -/
def setMetadataClass (rt : RuntimeRef) (c : ClassRef) : Update Unit :=
  modifyRuntime rt fun cell => { cell with metadataClass := some c }

/-- Builds a class by its definition, with the given superclass: prototype, statics and annotations
are filled, the prototype is bound and the class is registered. The static initializer, if there is
one, is not called. -/
def buildClass (rt : RuntimeRef) (d : Definition) (superclass : ClassRef) : Update ClassRef := do
  let h ← get
  let root := h.rootPrototype rt
  let prototype ← newObjectOf (some (h.klass superclass).prototype) d.members
  let statics ← newObjectOf (some root) d.statics
  let text ← newFunction "toString" (.builtin (.classToString d.name))
  let _ ← define statics "toString" (.function text) ⟨true, false, true⟩
  let annotations ← newObjectOf (some root) (d.annotations.getD [])
  let c ← newClass { name := d.name, superclass := some superclass, prototype, statics, annotations }
  bindClass prototype c
  let _ ← register (h.runtime rt).registry c
  return c

/-- A root class: its statics and annotations delegate to its own prototype. -/
def buildRoot (name : String) : Update ClassRef := do
  let prototype ← newObject none
  let statics ← newObject (some prototype)
  let annotations ← newObject (some prototype)
  let c ← newClass { name, superclass := none, prototype, statics, annotations }
  bindClass prototype c
  return c

/-- Makes a descriptor and gives it to a class. -/
def recordDescriptor (c : ClassRef) (cell : DescriptorCell) : Update DescriptorRef := do
  let d ← newDescriptor cell
  modifyClass c fun klass => { klass with descriptor := some d }
  return d

/-- Registers a host type; one that is already there under the name stays as it is. -/
def registerHost (rt : RuntimeRef) (name : String) (create : Option FunctionRef) :
    Update HostType := do
  let h ← get
  match h.hostNamed rt name with
  | some host => return host
  | none =>
    let root := h.rootPrototype rt
    let constructor ← newObject (some root)
    let prototype ← newObject (some root)
    let host : HostType := { name, constructor, prototype, create }
    modifyRuntime rt fun cell => { cell with hosts := cell.hosts ++ [(name, host)] }
    return host

/-- A new function for each of the named built-in functions. -/
def newBuiltins : List (String × Builtin) → Update (List (String × Value))
  | [] => pure []
  | (name, b) :: rest => do
    let f ← newFunction name (.builtin b)
    let others ← newBuiltins rest
    return (name, .function f) :: others

/-- The members that every receiver answers to. -/
def objectSurface : List (String × Builtin) :=
  [("hashCode", .objectHashCode), ("equals", .objectEquals), ("toString", .objectToString),
    ("getClass", .objectGetClass)]

/-- The members that strings have of their own. -/
def stringSurface : List (String × Builtin) :=
  [("hashCode", .stringHashCode), ("startsWith", .stringStartsWith),
    ("endsWith", .stringEndsWith)]

/-- The members of the class of all descriptor objects. -/
def descriptorSurface (constructorPrefix : String) : List (String × Builtin) :=
  [(constructorPrefix ++ "0", .descriptorNew), ("getName", .descriptorGetName),
    ("getSimpleName", .descriptorGetSimpleName), ("toString", .descriptorToString),
    ("getSuperclass", .descriptorGetSuperclass), ("getAnnotations", .descriptorGetAnnotations),
    ("isAssignableFrom", .descriptorIsAssignableFrom), ("isInstance", .descriptorIsInstance)]

/-- The definition of the metadata class, given its members. -/
def descriptorDefinition (name : String) (members : List (String × Value)) : Definition :=
  members.foldl (fun d entry => d.member entry.1 entry.2) { name }

/-- Opens a runtime: its root class, which is registered and is a host type too, its counter and its
registry. It has no members and no metadata class yet. -/
def openRuntime (options : Options) : Update RuntimeRef := do
  let root ← buildRoot options.rootName
  let counter ← newCounter
  let registry ← newRegistry
  let cell := (← get).klass root
  let host : HostType :=
    { name := options.rootName, constructor := cell.statics, prototype := cell.prototype,
      create := none }
  let rt ← newRuntimeCell
    { options, counter, registry, hosts := [(options.rootName, host)], root }
  let _ ← register registry root
  return rt

/-- Builds a runtime with acceptable options: the root class with the surface of all receivers, the
host types of the root and of strings, and last, as a class like any other, the metadata class. -/
def buildRuntime (options : Options) : Update RuntimeRef := do
  let rt ← openRuntime options
  let surface ← newBuiltins objectSurface
  let _ ← install ((← get).rootPrototype rt) surface
  let strings ← registerHost rt "String" none
  let surface ← newBuiltins stringSurface
  let _ ← install strings.prototype surface
  let members ← newBuiltins (descriptorSurface options.constructorPrefix)
  let root := ((← get).runtime rt).root
  let metadata ← buildClass rt (descriptorDefinition options.metadataName members) root
  setMetadataClass rt metadata
  return rt

/-- A runtime with these options, unless they are not acceptable. -/
def newRuntime (options : Options) : Update (Except Error RuntimeRef) :=
  match options.validate with
  | .error e => return .error e
  | .ok () => return .ok (← buildRuntime options)

end Update

end ProtoClass
