import ProtoClass.Run.Construct

set_option autoImplicit false

/- The descriptor of a class is made when someone first asks for it, after that of its superclass. The
object that stands for it is an instance of the metadata class, made like any other instance. -/
namespace ProtoClass

/-- The class of all descriptor objects. -/
def Action.metadataClass {σ : Type} (rt : RuntimeRef) : Action σ ClassRef := do
  let cell := (← Action.heap).runtime rt
  match cell.metadataClass with
  | some c => return c
  | none => Action.fail (.missingMetadataClass cell.options.metadataName)

namespace Setting

variable {σ : Type} (s : Setting σ)

/-- Makes the object for the descriptor of a class and then the descriptor, unless the class got one
while the object was being constructed. -/
def makeDescriptor (rt : RuntimeRef) (c : ClassRef) (superclass : Option DescriptorRef) :
    Action σ DescriptorRef := do
  let metadata ← Action.metadataClass rt
  let cell := (← Action.heap).klass c
  let name ← Action.update (Update.newText cell.name)
  let parent := (← Action.heap).spineValue superclass
  let object ← s.construct rt metadata
    [.string name, .object cell.prototype, .object cell.annotations, parent, .integer 0]
  match ((← Action.heap).klass c).descriptor with
  | some d => return d
  | none =>
    Action.update (Update.recordDescriptor c
      { object, name := cell.name, prototype := cell.prototype, annotations := cell.annotations,
        superclass })

/-- The descriptor of a class whose proper superclasses are the given ones. -/
def describeAlong (rt : RuntimeRef) (c : ClassRef) : List ClassRef → Action σ DescriptorRef
  | [] => do
    match ((← Action.heap).klass c).descriptor with
    | some d => return d
    | none => s.makeDescriptor rt c none
  | superclass :: others => do
    match ((← Action.heap).klass c).descriptor with
    | some d => return d
    | none =>
      let parent ← describeAlong rt superclass others
      s.makeDescriptor rt c (some parent)

/-- The descriptor of a class. -/
def descriptorOf (rt : RuntimeRef) (c : ClassRef) : Action σ DescriptorRef := do
  let h ← Action.heap
  s.describeAlong rt c (h.ancestry c).tail

/-- The descriptor of the class registered under a name. -/
def descriptorNamed (rt : RuntimeRef) (name : String) : Action σ (Option DescriptorRef) := do
  match (← Action.heap).classNamed rt name with
  | some c => return some (← s.descriptorOf rt c)
  | none => return none

/-- The descriptor of the class of a value: of the nearest class on the chain of an object, and of
the metadata class for every class. -/
def getClass (rt : RuntimeRef) (v : Value) : Action σ DescriptorRef := do
  match v with
  | .object o =>
    match (← Action.heap).owningClass o with
    | some c => s.descriptorOf rt c
    | none => Action.fail (.noClass "object")
  | .klass _ => s.descriptorOf rt (← Action.metadataClass rt)
  | other => Action.fail (.noClass other.kindName)

/-- Is a value an instance of the class that a descriptor describes? Values without a class are
instances of none. -/
def isInstance (rt : RuntimeRef) (d : DescriptorRef) (v : Value) : Action σ Bool := do
  match ← (s.getClass rt v).attempt with
  | .ok e => return (← Action.heap).isAssignableFrom d e
  | .error (.noClass _) => return false
  | .error e => Action.fail e

end Setting

end ProtoClass
