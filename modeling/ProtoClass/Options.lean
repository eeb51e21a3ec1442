import ProtoClass.Error
import ProtoClass.Toml.Document

set_option autoImplicit false

namespace ProtoClass

structure Options where
  /-- The character in front of the key of a static member; alone it is the key of the static
  initializer. -/
  staticMarker : Char := '_'
  /-- What stands before the selector in the name of a constructor variant. -/
  constructorPrefix : String := "$"
  rootName : String := "Object"
  metadataName : String := "Class"
  deriving DecidableEq

namespace Options

/-- Does the text begin with the marker? -/
def startsWithMarker (marker : Char) (text : String) : Bool := text.toList.head? == some marker

/-- The first reason, in this order, why options are not acceptable. -/
def fault? (o : Options) : Option OptionsError :=
  if o.rootName = "" then some .emptyRootName
  else if o.metadataName = "" then some .emptyMetadataName
  else if o.metadataName = o.rootName then some (.sharedName o.rootName)
  else if startsWithMarker o.staticMarker o.metadataName then
    some (.markedMetadataName o.metadataName)
  else if startsWithMarker o.staticMarker o.constructorPrefix then
    some (.markedPrefix o.constructorPrefix)
  else none

def validate (o : Options) : Except Error Unit :=
  match o.fault? with
  | some cause => .error (.invalidOptions cause)
  | none => .ok ()

/-- The text under a key, or the default when the key is missing; any other item is an error. -/
def readText (entries : Toml.Entries) (key default : String) : Except Error String :=
  match entries.get? key with
  | none => .ok default
  | some (.scalar (.text s)) => .ok s
  | some _ => .error .malformedOptions

/-- The marker is a text of exactly one character. -/
def readMarker (entries : Toml.Entries) (key : String) (default : Char) : Except Error Char :=
  match entries.get? key with
  | none => .ok default
  | some (.scalar (.text s)) =>
    match s.toList with
    | [c] => .ok c
    | _ => .error .malformedOptions
  | some _ => .error .malformedOptions

/-- The options that a table of configuration gives; keys of other names are ignored. -/
def ofEntries (entries : Toml.Entries) : Except Error Options := do
  let marker ← readMarker entries "static_marker" '_'
  let text ← readText entries "constructor_prefix" "$"
  let root ← readText entries "root_class_name" "Object"
  let metadata ← readText entries "metadata_class_name" "Class"
  return ⟨marker, text, root, metadata⟩

/-- Acceptable options from configuration text that a parser reads as a table. -/
def ofText (parse : String → Option Toml.Entries) (text : String) : Except Error Options := do
  let entries ←
    match parse text with
    | some entries => .ok entries
    | none => .error .malformedOptions
  let options ← ofEntries entries
  options.validate
  return options

/-- Acceptable options from a document of configuration. -/
def ofToml (text : String) : Except Error Options := ofText Toml.parse text

/-- What reading a file gave: its text, or the reason why it could not be read. -/
def ofFile (path : String) (content : Except String String) : Except Error Options :=
  match content with
  | .ok text => ofToml text
  | .error reason => .error (.invalidOptions (.unreadable path reason))

theorem fault?_default : ({} : Options).fault? = none := by decide +kernel

theorem validate_eq_ok_iff {o : Options} : o.validate = .ok () ↔ o.fault? = none := by
  unfold validate
  cases o.fault? <;> simp

end Options

end ProtoClass
