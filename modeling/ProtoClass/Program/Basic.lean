import ProtoClass.Program.Request

set_option autoImplicit false

/- A program is a tree: it looks at the heap and at a state of its own, makes functions, sends requests
and goes on with the answers, until it is done. The bodies of the functions it makes are programs
too, so that whatever is called back while a request is being served is again a tree of requests. -/
namespace ProtoClass

/-- A program with a state of type `σ`, which ends with a value or an error. -/
inductive Program (σ : Type) : Type where
  | done (outcome : Except Error Value)
  | inspect (next : Heap → σ → Program σ)
  | store (state : σ) (next : Program σ)
  | newFunction (name : String) (body : RuntimeRef → Value → List Value → Program σ)
      (next : FunctionRef → Program σ)
  | ask (request : Request) (next : Except Error request.Answer → Program σ)

instance {σ : Type} : Inhabited (Program σ) := ⟨.done (.ok .undefined)⟩

/-- What a function made by a program does when it is called: with the runtime that it is called
through, the receiver and the arguments. -/
abbrev Body (σ : Type) := RuntimeRef → Value → List Value → Program σ

/-- A part of a program that hands a value of type `α`, or an error, to the rest. -/
def Script (σ α : Type) : Type := (Except Error α → Program σ) → Program σ

namespace Script

variable {σ α β : Type}

instance : Monad (Script σ) where
  pure a := fun rest => rest (.ok a)
  bind s f := fun rest => s fun r =>
    match r with
    | .ok a => f a rest
    | .error e => rest (.error e)

instance : Inhabited (Script σ α) := ⟨fun _ => default⟩

def fail (e : Error) : Script σ α := fun rest => rest (.error e)

def ofExcept (r : Except Error α) : Script σ α := fun rest => rest r

/-- Hands over the outcome of a part instead of failing with its error. -/
def attempt (s : Script σ α) : Script σ (Except Error α) := fun rest => s fun r => rest (.ok r)

def heap : Script σ Heap := fun rest => .inspect fun h _ => rest (.ok h)

def state : Script σ σ := fun rest => .inspect fun _ s => rest (.ok s)

def setState (s : σ) : Script σ Unit := fun rest => .store s (rest (.ok ()))

def modifyState (f : σ → σ) : Script σ Unit := fun rest =>
  .inspect fun _ s => .store (f s) (rest (.ok ()))

/-- A function of its own each time, with the given body. -/
def newFunction (name : String) (body : Body σ) : Script σ FunctionRef := fun rest =>
  .newFunction name body fun f => rest (.ok f)

def ask (request : Request) : Script σ request.Answer := fun rest => .ask request rest

/-- A whole program that ends with the value of a part. -/
def toProgram (s : Script σ Value) : Program σ := s .done

/-- Adds a member that is a new function of the same name. -/
def method (d : Definition) (name : String) (body : Body σ) : Script σ Definition := do
  return d.member name (.function (← newFunction name body))

/-- Adds a static that is a new function of the same name. -/
def staticMethod (d : Definition) (name : String) (body : Body σ) : Script σ Definition := do
  return d.static name (.function (← newFunction name body))

/-- Sets the static initializer to a new function. -/
def initializer (d : Definition) (body : Body σ) : Script σ Definition := do
  return d.initializedBy (← newFunction d.initializerName body)

end Script

end ProtoClass
