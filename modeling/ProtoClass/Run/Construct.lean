import ProtoClass.Run.Action

set_option autoImplicit false

namespace ProtoClass

/-- The name of the constructor variant that a selector chooses. -/
def Heap.variant (h : Heap) (rt : RuntimeRef) (selector : Value) : String :=
  (h.runtime rt).options.constructorPrefix ++ h.display selector

namespace Setting

variable {σ : Type} (s : Setting σ)

/-- Makes an instance of a class: the last argument selects the constructor variant, which is called
on the new object with the other arguments. -/
def construct (rt : RuntimeRef) (c : ClassRef) (args : List Value) : Action σ ObjectRef := do
  let h ← Action.heap
  match args.getLast? with
  | none => Action.fail (.missingSelector (h.klass c).name)
  | some selector =>
    let variant := h.variant rt selector
    match h.get (h.klass c).prototype variant with
    | some (.function f) =>
      let o ← Action.update (Update.newObject (some (h.klass c).prototype))
      let _ ← s.call f rt (.object o) args.dropLast
      return o
    | _ => Action.fail (.noSuchConstructor (h.klass c).name variant)

/-- Makes an instance of the class that is registered under a name now. -/
def constructNamed (rt : RuntimeRef) (name : String) (args : List Value) :
    Action σ ObjectRef := do
  match (← Action.heap).classNamed rt name with
  | some c => s.construct rt c args
  | none => Action.fail (.typeError (.classNotDefined name))

/-- Defines a class: resolves its superclass, builds and registers it, and calls its static
initializer with the finished class. -/
def defineClass (rt : RuntimeRef) (d : Definition) : Action σ ClassRef := do
  let h ← Action.heap
  let superclass ← Action.ofExcept
    ((h.registryOf rt).resolve d.name d.superclass (h.runtime rt).root)
  let c ← Action.update (Update.buildClass rt d superclass)
  match d.initializer with
  | some f =>
    let _ ← s.call f rt (.klass c) []
    return c
  | none => return c

/-- Defines a class by its flat form. -/
def defineFlat (rt : RuntimeRef) (name superclass : String) (entries : List (String × Value))
    (annotations : Option (List (String × Value))) : Action σ ClassRef := do
  let h ← Action.heap
  let d ← Action.ofExcept
    (Definition.parse name superclass entries annotations (h.runtime rt).options.staticMarker)
  s.defineClass rt d

end Setting

end ProtoClass
