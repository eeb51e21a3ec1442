import ProtoClass.Heap.Basic

set_option autoImplicit false

namespace ProtoClass

inductive Request where
  -- making things
  | newObject (prototype : Option ObjectRef) (entries : List (String × Value))
  | newString (units : List UInt16)
  | newCounter
  | newRegistry
  | newRuntime (options : Options)
  -- objects
  | set (o : ObjectRef) (name : String) (value : Value)
  | define (o : ObjectRef) (name : String) (value : Value) (flags : Flags)
  | delete (o : ObjectRef) (name : String)
  | install (o : ObjectRef) (properties : List (String × Value))
  -- identities and hashes
  | identityOf (counter : CounterRef) (x : Identified)
  | hashOf (s : StringRef)
  -- registries
  | register (registry : RegistryRef) (c : ClassRef)
  -- host types
  | registerHost (rt : RuntimeRef) (name : String) (create : Option FunctionRef)
  | installOn (rt : RuntimeRef) (name : String) (properties : List (String × Value))
  | installStaticOn (rt : RuntimeRef) (name : String) (properties : List (String × Value))
  | installSocketConnect (rt : RuntimeRef)
  | constructHost (rt : RuntimeRef) (name : String) (args : List Value)
  -- calls
  | call (f : FunctionRef) (rt : RuntimeRef) (this : Value) (args : List Value)
  | invoke (rt : RuntimeRef) (receiver : Value) (name : String) (args : List Value)
  | hashCode (rt : RuntimeRef) (receiver : Value)
  | equals (rt : RuntimeRef) (receiver other : Value)
  | display (rt : RuntimeRef) (receiver : Value)
  -- classes
  | defineClass (rt : RuntimeRef) (definition : Definition)
  | defineFlat (rt : RuntimeRef) (name superclass : String) (entries : List (String × Value))
      (annotations : Option (List (String × Value)))
  | construct (rt : RuntimeRef) (c : ClassRef) (args : List Value)
  | constructNamed (rt : RuntimeRef) (name : String) (args : List Value)
  -- descriptors
  | descriptorOf (rt : RuntimeRef) (c : ClassRef)
  | descriptorNamed (rt : RuntimeRef) (name : String)
  | getClass (rt : RuntimeRef) (value : Value)
  | isInstance (rt : RuntimeRef) (d : DescriptorRef) (value : Value)
  deriving DecidableEq

namespace Request

/-- The type of the answer to a request. -/
abbrev Answer : Request → Type
  | newObject _ _ => ObjectRef
  | newString _ => StringRef
  | newCounter => CounterRef
  | newRegistry => RegistryRef
  | newRuntime _ => RuntimeRef
  | set _ _ _ => Bool
  | define _ _ _ _ => Bool
  | delete _ _ => Bool
  | install _ _ => Nat
  | identityOf _ _ => Int32
  | hashOf _ => Int32
  | register _ _ => Option ClassRef
  | registerHost _ _ _ => HostType
  | installOn _ _ _ => Bool
  | installStaticOn _ _ _ => Bool
  | installSocketConnect _ => Bool
  | constructHost _ _ _ => Value
  | call _ _ _ _ => Value
  | invoke _ _ _ _ => Value
  | hashCode _ _ => Int32
  | equals _ _ _ => Bool
  | display _ _ => String
  | defineClass _ _ => ClassRef
  | defineFlat _ _ _ _ _ => ClassRef
  | construct _ _ _ => ObjectRef
  | constructNamed _ _ _ => ObjectRef
  | descriptorOf _ _ => DescriptorRef
  | descriptorNamed _ _ => Option DescriptorRef
  | getClass _ _ => DescriptorRef
  | isInstance _ _ _ => Bool

/-- Does a request name only things that are there? References cannot be made up: a program has only
those that it was given. -/
def isLive (h : Heap) : Request → Bool
  | newObject prototype entries => prototype.all h.objects.isLive && h.hasEntries entries
  | newString _ => true
  | newCounter => true
  | newRegistry => true
  | newRuntime _ => true
  | set o _ value => h.objects.isLive o && h.hasValue value
  | define o _ value _ => h.objects.isLive o && h.hasValue value
  | delete o _ => h.objects.isLive o
  | install o properties => h.objects.isLive o && h.hasEntries properties
  | identityOf counter x => h.counters.isLive counter && h.hasIdentified x
  | hashOf s => h.strings.isLive s
  | register registry c => h.registries.isLive registry && h.classes.isLive c
  | registerHost rt _ create => h.runtimes.isLive rt && create.all h.functions.isLive
  | installOn rt _ properties => h.runtimes.isLive rt && h.hasEntries properties
  | installStaticOn rt _ properties => h.runtimes.isLive rt && h.hasEntries properties
  | installSocketConnect rt => h.runtimes.isLive rt
  | constructHost rt _ args => h.runtimes.isLive rt && args.all h.hasValue
  | call f rt this args =>
    h.functions.isLive f && h.runtimes.isLive rt && h.hasValue this && args.all h.hasValue
  | invoke rt receiver _ args =>
    h.runtimes.isLive rt && h.hasValue receiver && args.all h.hasValue
  | hashCode rt receiver => h.runtimes.isLive rt && h.hasValue receiver
  | equals rt receiver other =>
    h.runtimes.isLive rt && h.hasValue receiver && h.hasValue other
  | display rt receiver => h.runtimes.isLive rt && h.hasValue receiver
  | defineClass rt definition => h.runtimes.isLive rt && h.hasDefinition definition
  | defineFlat rt _ _ entries annotations =>
    h.runtimes.isLive rt && h.hasEntries entries && h.hasEntries (annotations.getD [])
  | construct rt c args => h.runtimes.isLive rt && h.classes.isLive c && args.all h.hasValue
  | constructNamed rt _ args => h.runtimes.isLive rt && args.all h.hasValue
  | descriptorOf rt c => h.runtimes.isLive rt && h.classes.isLive c
  | descriptorNamed rt _ => h.runtimes.isLive rt
  | getClass rt value => h.runtimes.isLive rt && h.hasValue value
  | isInstance rt d value =>
    h.runtimes.isLive rt && h.descriptors.isLive d && h.hasValue value

end Request

end ProtoClass
