set_option autoImplicit false

namespace ProtoClass

/-- Why a value was of the wrong kind; `got` is the name of the kind it had. -/
inductive TypeError where
  | notObject (context got : String)
  | notString (context got : String)
  | notDescriptor (got : String)
  | initializerNotFunction (className got : String)
  | classNotDefined (name : String)
  | noHashCode (got : String)
  | hashCodeNotInteger (got : String)
  | missingPrefix
  | missingSuffix
  | hostNotProvided (name : String)
  | hostNotConstructible (name : String)
  | connectionNotObject (hostName got : String)
  | other (text : String)
  deriving DecidableEq

/-- Why options are not acceptable. -/
inductive OptionsError where
  | emptyRootName
  | emptyMetadataName
  | sharedName (name : String)
  | markedMetadataName (name : String)
  | markedPrefix (text : String)
  | unreadable (path reason : String)
  | other (text : String)
  deriving DecidableEq

inductive Error where
  | unresolvedSuperclass (className superclassName : String)
  | missingSelector (className : String)
  | noSuchConstructor (className variant : String)
  | noSuchMember (receiver name : String)
  | notCallable (name : String)
  | noClass (kindName : String)
  | missingMetadataClass (name : String)
  | identitiesExhausted
  | typeError (cause : TypeError)
  | invalidOptions (cause : OptionsError)
  | malformedOptions
  deriving DecidableEq

def TypeError.message : TypeError → String
  | .notObject context got => context ++ " expected an object, got " ++ got
  | .notString context got => context ++ " expected a string, got " ++ got
  | .notDescriptor got => "isAssignableFrom expected a class descriptor, got " ++ got
  | .initializerNotFunction c got =>
    "static initializer of '" ++ c ++ "' must be a function, got " ++ got
  | .classNotDefined name => "class '" ++ name ++ "' is not defined"
  | .noHashCode got => "hashCode is not defined for " ++ got
  | .hashCodeNotInteger got => "hashCode returned " ++ got
  | .missingPrefix => "startsWith requires a prefix"
  | .missingSuffix => "endsWith requires a suffix"
  | .hostNotProvided name => "host type '" ++ name ++ "' is not provided"
  | .hostNotConstructible name => "host type '" ++ name ++ "' is not constructible"
  | .connectionNotObject host got => host ++ " constructor returned " ++ got
  | .other text => text

def OptionsError.message : OptionsError → String
  | .emptyRootName => "root_class_name cannot be empty"
  | .emptyMetadataName => "metadata_class_name cannot be empty"
  | .sharedName name => "metadata class and root type share the name '" ++ name ++ "'"
  | .markedMetadataName name =>
    "metadata_class_name '" ++ name ++ "' starts with the static marker"
  | .markedPrefix text => "constructor_prefix '" ++ text ++ "' would mark constructors as static"
  | .unreadable path reason => "cannot read " ++ path ++ ": " ++ reason
  | .other text => text

/-- The wording of an error; malformed options have none of their own, because the reader of their
text explains them. -/
def Error.message : Error → String
  | .unresolvedSuperclass c s =>
    "Cannot define class '" ++ c ++ "': superclass '" ++ s ++ "' is not defined"
  | .missingSelector c => "Cannot construct '" ++ c ++ "': missing constructor selector"
  | .noSuchConstructor c v => "Class '" ++ c ++ "' has no constructor variant '" ++ v ++ "'"
  | .noSuchMember receiver name => receiver ++ " has no member '" ++ name ++ "'"
  | .notCallable name => "Member '" ++ name ++ "' is not callable"
  | .noClass kind => "Value of type " ++ kind ++ " has no class"
  | .missingMetadataClass name => "Metadata class '" ++ name ++ "' is not defined"
  | .identitiesExhausted => "Identity counter exhausted"
  | .typeError cause => "Type error: " ++ cause.message
  | .invalidOptions cause => "Invalid options: " ++ cause.message
  | .malformedOptions => "Failed to parse options"

end ProtoClass
