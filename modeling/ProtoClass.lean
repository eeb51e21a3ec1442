import ProtoClass.Heap.Dump
import ProtoClass.Proofs.Affixes
import ProtoClass.Proofs.Arena
import ProtoClass.Proofs.Bootstrap
import ProtoClass.Proofs.Builders
import ProtoClass.Proofs.Calls
import ProtoClass.Proofs.ClassGraph
import ProtoClass.Proofs.Construction
import ProtoClass.Proofs.ContentHashes
import ProtoClass.Proofs.Courses
import ProtoClass.Proofs.Declared
import ProtoClass.Proofs.Delegation
import ProtoClass.Proofs.Effect
import ProtoClass.Proofs.Event
import ProtoClass.Proofs.Extends
import ProtoClass.Proofs.Flattening
import ProtoClass.Proofs.HashCodes
import ProtoClass.Proofs.HostTypes
import ProtoClass.Proofs.Identity
import ProtoClass.Proofs.Inheritance
import ProtoClass.Proofs.Initializers
import ProtoClass.Proofs.Labels
import ProtoClass.Proofs.LooseEquality
import ProtoClass.Proofs.Noting
import ProtoClass.Proofs.ObjectTexts
import ProtoClass.Proofs.Ordered
import ProtoClass.Proofs.Outcomes
import ProtoClass.Proofs.Permanence
import ProtoClass.Proofs.Pinned
import ProtoClass.Proofs.Receivers
import ProtoClass.Proofs.Reflection
import ProtoClass.Proofs.Registries
import ProtoClass.Proofs.SelfHosting
import ProtoClass.Proofs.Sockets
import ProtoClass.Proofs.Spine
import ProtoClass.Proofs.Start
import ProtoClass.Proofs.StringSurface
import ProtoClass.Proofs.Subtyping
import ProtoClass.Proofs.Surrogates
import ProtoClass.Proofs.Undisturbed
import ProtoClass.Proofs.Variants
import ProtoClass.Proofs.Writes
import ProtoClass.Run.Program
