import ProtoClass.Run.Action

set_option autoImplicit false

namespace ProtoClass

/-- The host type of socket connections. -/
def socketHost : String := "WebSocket"

/-- The callbacks of a listener, each with the slot of a connection that it goes to. -/
def socketCallbacks : List (String × String) :=
  [("open", "onopen"), ("close", "onclose"), ("error", "onerror"), ("message", "onmessage")]

namespace Setting

variable {σ : Type} (s : Setting σ)

/-- Installs members for the instances of a host type; says whether there is such a type. -/
def installOn (rt : RuntimeRef) (name : String) (properties : List (String × Value)) :
    Action σ Bool := do
  match (← Action.heap).hostNamed rt name with
  | some host =>
    let _ ← s.install host.prototype properties
    return true
  | none => return false

/-- Installs static members of a host type; says whether there is such a type. -/
def installStaticOn (rt : RuntimeRef) (name : String) (properties : List (String × Value)) :
    Action σ Bool := do
  match (← Action.heap).hostNamed rt name with
  | some host =>
    let _ ← s.install host.constructor properties
    return true
  | none => return false

/-- Makes an instance of a host type by calling its create function on its constructor object. -/
def constructHost (rt : RuntimeRef) (name : String) (args : List Value) : Action σ Value := do
  match (← Action.heap).hostNamed rt name with
  | none => Action.fail (.typeError (.hostNotProvided name))
  | some host =>
    match host.create with
    | none => Action.fail (.typeError (.hostNotConstructible name))
    | some f => s.call f rt (.object host.constructor) args

/-- Copies the callbacks that a listener has into the slots of a connection. -/
def wire (connection listener : ObjectRef) : List (String × String) → Action σ Unit
  | [] => pure ()
  | (callback, slot) :: rest => do
    match (← Action.heap).get listener callback with
    | some handler =>
      let _ ← s.set connection slot handler
      wire connection listener rest
    | none => wire connection listener rest

/-- Opens a connection to the first argument; an object as second argument listens to it. -/
def socketConnect (rt : RuntimeRef) (args : List Value) : Action σ Value := do
  let connection ← s.constructHost rt socketHost [args.head?.getD .undefined]
  match connection with
  | .object o =>
    match (args[1]? : Option Value) with
    | some (.object listener) =>
      s.wire o listener socketCallbacks
      return connection
    | _ => return connection
  | other => Action.fail (.typeError (.connectionNotObject socketHost other.kindName))

/-- Installs the static member that opens connections. -/
def installSocketConnect (rt : RuntimeRef) : Action σ Bool := do
  let f ← Action.update (Update.newFunction "WebSocket.connect" (.builtin .socketConnect))
  s.installStaticOn rt socketHost [("connect", .function f)]

end Setting

end ProtoClass
