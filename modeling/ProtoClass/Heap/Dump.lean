import ProtoClass.Heap.Values
import ProtoClass.Text.Quoted

set_option autoImplicit false

/- Dumps show how values, descriptors and host types are made up. Objects show their own names and not
their values, so that a dump always ends. -/
namespace ProtoClass

/-- Fields between braces after the name of their structure. -/
def dumpFields (name : String) (fields : List (String × String)) : String :=
  name ++ " \x7b " ++ ", ".intercalate (fields.map fun f => f.1 ++ ": " ++ f.2) ++ " \x7d"

def dumpOption (text : Option String) : String :=
  match text with
  | some t => "Some(" ++ t ++ ")"
  | none => "None"

def dumpNames (names : List String) : String :=
  "[" ++ ", ".intercalate (names.map quote) ++ "]"

namespace Heap

def dumpObject (h : Heap) (o : ObjectRef) : String :=
  dumpFields "Object"
    [("keys", dumpNames (h.object o).properties.names),
      ("class", dumpOption ((h.object o).boundClass.map fun c => quote (h.klass c).name))]

def dumpFunction (h : Heap) (f : FunctionRef) : String :=
  "Function(" ++ (h.function f).name ++ ")"

def dumpClass (h : Heap) (c : ClassRef) : String :=
  let cell := h.klass c
  dumpFields "ClassConstructor"
    [("name", quote cell.name),
      ("superclass", dumpOption (cell.superclass.map fun s => quote (h.klass s).name)),
      ("members", dumpNames (h.object cell.prototype).properties.names)]

def dump (h : Heap) : Value → String
  | .undefined => "Undefined"
  | .null => "Null"
  | .boolean b => "Bool(" ++ (if b then "true" else "false") ++ ")"
  | .integer i => "Int(" ++ toString i.toInt ++ ")"
  | .number x => "Number(" ++ x.debug ++ ")"
  | .string s => "Str(" ++ quote (Utf16.decode (h.string s).units) ++ ")"
  | .object o => "Object(" ++ h.dumpObject o ++ ")"
  | .function f => "Function(" ++ h.dumpFunction f ++ ")"
  | .klass c => "Class(" ++ h.dumpClass c ++ ")"

def dumpDescriptor (h : Heap) (d : DescriptorRef) : String :=
  let cell := h.descriptor d
  dumpFields "Metadata"
    [("name", quote cell.name),
      ("superclass", dumpOption (cell.superclass.map fun s => quote (h.descriptor s).name))]

def dumpHost (h : Heap) (host : HostType) : String :=
  dumpFields "HostType"
    [("name", quote host.name), ("constructor", h.dumpObject host.constructor),
      ("prototype", h.dumpObject host.prototype),
      ("create", dumpOption (host.create.map h.dumpFunction))]

end Heap

end ProtoClass
