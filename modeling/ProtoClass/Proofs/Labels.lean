import ProtoClass.Proofs.Event

set_option autoImplicit false

/- Which events a request and a built-in function make by themselves, whatever the functions do that
they call. Only the setting up of a runtime and the making of descriptors take events of several
kinds, and no request but those that say so writes properties of an object that was there. -/
namespace ProtoClass

/-- A thing that has an identity, as a value. -/
def Identified.value : Identified → Value
  | object o => .object o
  | function f => .function f
  | klass c => .klass c

namespace Event

/-- Is the event a stage in the setting up of a runtime? -/
def SetsUp : Event → Prop
  | openRuntime _ => True
  | function _ (.builtin _) => True
  | furnish _ _ => True
  | host _ _ _ => True
  | klass _ _ _ => True
  | closeRuntime _ _ => True
  | _ => False

/-- Is the event a stage in the making of a descriptor? -/
def MakesDescriptor : Event → Prop
  | string _ => True
  | object (some _) [] => True
  | describe _ _ => True
  | _ => False

end Event

/-- The events that serving a request may make besides those of the functions that it calls. -/
def Request.Makes (e : Event) : Request → Prop
  | newObject prototype entries => e = .object prototype entries
  | newString units => e = .string units
  | newCounter => e = .counter
  | newRegistry => e = .registry
  | newRuntime _ => e.SetsUp
  | set o name value => e = .set o name value
  | define o name value flags => e = .define o name value flags
  | delete o name => e = .delete o name
  | install o properties => e = .install o properties
  | identityOf k x => e = .identity k x
  | hashOf t => e = .hash t
  | register r c => e = .register r c
  | registerHost rt name create => e = .host rt name create
  | installOn _ _ properties => ∃ o, e = .install o properties
  | installStaticOn _ _ properties => ∃ o, e = .install o properties
  | installSocketConnect _ => e = .function "WebSocket.connect" (.builtin .socketConnect) ∨
      ∃ o f, e = .install o [("connect", .function f)]
  | constructHost _ _ _ => False
  | call _ _ _ _ => False
  | invoke _ _ _ _ => False
  | hashCode _ _ => False
  | equals _ _ _ => False
  | display _ _ => False
  | defineClass rt d => ∃ p, e = .klass rt d p
  | defineFlat rt _ _ _ _ => ∃ d p, e = .klass rt d p
  | construct _ _ _ => ∃ p, e = .object (some p) []
  | constructNamed _ _ _ => ∃ p, e = .object (some p) []
  | descriptorOf _ _ => e.MakesDescriptor
  | descriptorNamed _ _ => e.MakesDescriptor
  | getClass _ _ => e.MakesDescriptor
  | isInstance _ _ _ => e.MakesDescriptor

/-- The slots that the constructor of descriptor objects fills. -/
def descriptorSlots : List String := ["name", "prototype", "annotations", "superclass"]

/-- The events that a built-in function may make, called on a receiver, besides those of the functions
that it calls. -/
def Builtin.Makes (this : Value) (e : Event) : Builtin → Prop
  | objectHashCode => (∃ k x, this = Identified.value x ∧ e = .identity k x) ∨
      ∃ t, this = .string t ∧ e = .hash t
  | objectEquals => False
  | objectToString => ∃ units, e = .string units
  | objectGetClass => e.MakesDescriptor
  | stringHashCode => ∃ t, this = .string t ∧ e = .hash t
  | stringStartsWith => False
  | stringEndsWith => False
  | descriptorNew => ∃ o slot v, this = .object o ∧ slot ∈ descriptorSlots ∧ e = .set o slot v
  | descriptorGetName => ∃ units, e = .string units
  | descriptorGetSimpleName => ∃ units, e = .string units
  | descriptorToString => ∃ units, e = .string units
  | descriptorGetSuperclass => False
  | descriptorGetAnnotations => False
  | descriptorIsAssignableFrom => False
  | descriptorIsInstance => e.MakesDescriptor
  | classToString _ => ∃ units, e = .string units
  | socketConnect => ∃ o slot v, slot ∈ socketCallbacks.map Prod.snd ∧ e = .set o slot v

namespace Event

variable {e : Event}

theorem SetsUp.not_isIdentity (setsUp : e.SetsUp) : ¬ e.IsIdentity := by
  cases e with
  | identity k x => cases setsUp
  | _ => exact id

theorem MakesDescriptor.not_isIdentity (describing : e.MakesDescriptor) : ¬ e.IsIdentity := by
  cases e with
  | identity k x => cases describing
  | _ => exact id

theorem MakesDescriptor.written_eq_none (describing : e.MakesDescriptor) : e.written = none := by
  cases e with
  | set | define | delete | install | furnish => cases describing
  | _ => rfl

end Event

/-- No request makes identities but the one that asks for one. -/
theorem Request.Makes.not_isIdentity {q : Request} {e : Event} (makes : q.Makes e)
    (other : ∀ k x, q ≠ .identityOf k x) : ¬ e.IsIdentity := by
  cases q with
  | identityOf k x => exact absurd rfl (other k x)
  | newRuntime options => exact Event.SetsUp.not_isIdentity makes
  | descriptorOf | descriptorNamed | getClass | isInstance =>
    exact Event.MakesDescriptor.not_isIdentity makes
  | installOn | installStaticOn | defineClass | construct | constructNamed =>
    obtain ⟨_, rfl⟩ := makes
    exact id
  | defineFlat =>
    obtain ⟨_, _, rfl⟩ := makes
    exact id
  | installSocketConnect =>
    rcases makes with rfl | ⟨_, _, rfl⟩
    · exact id
    · exact id
  | constructHost | call | invoke | hashCode | equals | display => cases makes
  | _ =>
    cases makes
    exact id

/-- No built-in function makes identities but the hash code of what has one. -/
theorem Builtin.Makes.not_isIdentity {b : Builtin} {this : Value} {e : Event} (makes : b.Makes this e)
    (other : b = .objectHashCode → ∀ x : Identified, this ≠ x.value) : ¬ e.IsIdentity := by
  cases b with
  | objectHashCode =>
    rcases makes with ⟨k, x, same, _⟩ | ⟨_, _, rfl⟩
    · exact absurd same (other rfl x)
    · exact id
  | objectGetClass | descriptorIsInstance => exact Event.MakesDescriptor.not_isIdentity makes
  | objectToString | descriptorGetName | descriptorGetSimpleName | descriptorToString | classToString =>
    obtain ⟨_, rfl⟩ := makes
    exact id
  | stringHashCode =>
    obtain ⟨_, _, rfl⟩ := makes
    exact id
  | descriptorNew =>
    obtain ⟨_, _, _, _, _, rfl⟩ := makes
    exact id
  | socketConnect =>
    obtain ⟨_, _, _, _, rfl⟩ := makes
    exact id
  | _ => cases makes

end ProtoClass
