import ProtoClass.Run.Action

set_option autoImplicit false

namespace ProtoClass.Setting

variable {σ : Type} (s : Setting σ)

/-- Calls the member of a receiver with the receiver itself. -/
def invoke (rt : RuntimeRef) (receiver : Value) (name : String) (args : List Value) :
    Action σ Value := do
  let h ← Action.heap
  match h.lookup rt receiver name with
  | some (.function f) => s.call f rt receiver args
  | some _ => Action.fail (.notCallable name)
  | none => Action.fail (.noSuchMember (h.describe receiver) name)

/-- The integer that the member `hashCode` gives. -/
def hashCode (rt : RuntimeRef) (receiver : Value) : Action σ Int32 := do
  match ← s.invoke rt receiver "hashCode" [] with
  | .integer i => return i
  | other => Action.fail (.typeError (.hashCodeNotInteger other.kindName))

/-- The truth of what the member `equals` gives. -/
def equals (rt : RuntimeRef) (receiver other : Value) : Action σ Bool := do
  let answer ← s.invoke rt receiver "equals" [other]
  return (← Action.heap).isTruthy answer

/-- The text of what the member `toString` gives. -/
def display (rt : RuntimeRef) (receiver : Value) : Action σ String := do
  let answer ← s.invoke rt receiver "toString" []
  return (← Action.heap).display answer

end ProtoClass.Setting
