import ProtoClass.Heap.Basic

set_option autoImplicit false

/- An object delegates to its prototype, a class extends its superclass, and the descriptor of a class
points to that of the superclass. A thing is always younger than what it delegates to, so following
such links ends; a link to something not older, which no operation makes, would end the chain. -/
namespace ProtoClass.Heap

/-- An object and everything it delegates to, nearest first. -/
def chain (h : Heap) (o : ObjectRef) : List ObjectRef :=
  o :: match (h.object o).prototype with
    | some p => if _older : p.id < o.id then h.chain p else []
    | none => []
termination_by o.id

/-- A class and its superclasses, nearest first. -/
def ancestry (h : Heap) (c : ClassRef) : List ClassRef :=
  c :: match (h.klass c).superclass with
    | some s => if _older : s.id < c.id then h.ancestry s else []
    | none => []
termination_by c.id

/-- A descriptor and those of the superclasses, nearest first. -/
def spine (h : Heap) (d : DescriptorRef) : List DescriptorRef :=
  d :: match (h.descriptor d).superclass with
    | some s => if _older : s.id < d.id then h.spine s else []
    | none => []
termination_by d.id

/-- A property of the object itself. -/
def ownProperty (h : Heap) (o : ObjectRef) (name : String) : Option Property :=
  (h.object o).properties.get? name

def getOwn (h : Heap) (o : ObjectRef) (name : String) : Option Value :=
  (h.ownProperty o name).map Property.value

/-- The value that the nearest object of the chain has under a name. -/
def get (h : Heap) (o : ObjectRef) (name : String) : Option Value :=
  (h.chain o).findSome? fun p => h.getOwn p name

def hasOwn (h : Heap) (o : ObjectRef) (name : String) : Bool := (h.object o).properties.contains name

def has (h : Heap) (o : ObjectRef) (name : String) : Bool := (h.get o name).isSome

/-- Does an object delegate to another one, directly or through others? -/
def inheritsFrom (h : Heap) (o ancestor : ObjectRef) : Bool := ancestor ∈ (h.chain o).tail

/-- The nearest class on the chain of an object. -/
def owningClass (h : Heap) (o : ObjectRef) : Option ClassRef :=
  (h.chain o).findSome? fun p => (h.object p).boundClass

def isSubclassOf (h : Heap) (c d : ClassRef) : Bool := d ∈ h.ancestry c

/-- The names of the members that a class declares itself. -/
def declaredMembers (h : Heap) (prototype : ObjectRef) : List String :=
  (h.object prototype).properties.names

/-- Can an instance of the class of `e` stand where one of the class of `d` is expected? -/
def isAssignableFrom (h : Heap) (d e : DescriptorRef) : Bool := d ∈ h.spine e

/-- What a descriptor object holds for the descriptor of the superclass. -/
def spineValue (h : Heap) : Option DescriptorRef → Value
  | some d => .object (h.descriptor d).object
  | none => .null

/-- The value of an annotation that was given for the class itself. -/
def annotation (h : Heap) (d : DescriptorRef) (name : String) : Option Value :=
  h.getOwn (h.descriptor d).annotations name

/-- Looks for `target` among `o`, the object that its property `superclass` holds, and so on, for
at most the given number of steps. -/
def searchSuperclasses (h : Heap) (target : ObjectRef) : Nat → ObjectRef → Option Bool
  | 0, _ => none
  | steps + 1, o =>
    if o = target then some true
    else
      match h.get o "superclass" with
      | some (.object p) => h.searchSuperclasses target steps p
      | _ => some false

/-- Is `target` among the objects reached from `o` along the property `superclass`? There are no
more of them than objects; after that many steps the search would go round for ever, and has no
result. -/
def spineContains (h : Heap) (o target : ObjectRef) : Option Bool :=
  h.searchSuperclasses target h.objects.size o

/-- What a member of a receiver is looked for on: an object itself, the statics of a class, the
prototype of the host type of strings, and the root prototype for everything else. -/
def memberSource (h : Heap) (rt : RuntimeRef) : Value → ObjectRef
  | .object o => o
  | .klass c => (h.klass c).statics
  | .string _ =>
    match h.hostNamed rt "String" with
    | some host => host.prototype
    | none => h.rootPrototype rt
  | _ => h.rootPrototype rt

def lookup (h : Heap) (rt : RuntimeRef) (receiver : Value) (name : String) : Option Value :=
  h.get (h.memberSource rt receiver) name

/-- The words for a receiver in the error about a missing member. -/
def describe (h : Heap) : Value → String
  | .object o =>
    match h.owningClass o with
    | some c => "instance of " ++ (h.klass c).name
    | none => "object"
  | .klass c => "Class " ++ (h.klass c).name
  | other => other.kindName

theorem mem_chain_self (h : Heap) (o : ObjectRef) : o ∈ h.chain o := by
  rw [chain]
  exact List.mem_cons_self

theorem mem_ancestry_self (h : Heap) (c : ClassRef) : c ∈ h.ancestry c := by
  rw [ancestry]
  exact List.mem_cons_self

theorem isSubclassOf_refl (h : Heap) (c : ClassRef) : h.isSubclassOf c c = true := by
  simp [isSubclassOf, mem_ancestry_self]

end ProtoClass.Heap
