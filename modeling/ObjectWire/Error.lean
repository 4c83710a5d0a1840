/-!
# Errors

Every failure of the library is one of five causes: the byte sink or source failed (`io`),
the fixed-width value codec refused its input (`codec`), the configuration cannot map a type
(`config`), the data does not fit what is expected (`data`), or an accessor broke a promise
of the reflection layer (`internal`). Each cause carries what its message needs, and
`Error.message` is the one place where the wording lives.
-/

namespace ObjectWire

/-- Failures of a byte sink or source. -/
inductive IoFault where
  /-- A sink that accepts no more bytes. -/
  | sinkFull
  /-- A source that breaks part way. -/
  | sourceBroken
  | notFound
  | noDevice
  | isDirectory
  deriving DecidableEq, Repr

/-- The text of an I/O failure. -/
def IoFault.message : IoFault → String
  | .sinkFull => "sink full"
  | .sourceBroken => "source broken"
  | .notFound => "No such file or directory (os error 2)"
  | .noDevice => "No such device (os error 19)"
  | .isDirectory => "Is a directory (os error 21)"

/-- Failures of the fixed-width value codec (integers, floats, booleans, characters). -/
inductive CodecFault where
  /-- The input ended with fewer bytes than the value needs. -/
  | endOfInput (needed : Nat)
  /-- A boolean byte other than 0 and 1. -/
  | invalidBool (byte : Nat)
  /-- A character that is not UTF-8; the four bytes read so far, padded with zeros. -/
  | invalidChar (bytes : List Nat)
  /-- The sink refused a value's bytes. -/
  | sinkRefused
  deriving DecidableEq, Repr

/-- A list of numbers written `[a, b, c]`. -/
def listText (xs : List Nat) : String :=
  "[" ++ ", ".intercalate (xs.map toString) ++ "]"

/-- The text of a codec failure. -/
def CodecFault.message : CodecFault → String
  | .endOfInput n =>
    "Io \x7b inner: Error \x7b kind: UnexpectedEof, message: \"failed to fill whole buffer\" \x7d, " ++
      "additional: " ++ toString n ++ " \x7d"
  | .invalidBool b => "InvalidBooleanValue(" ++ toString b ++ ")"
  | .invalidChar bs => "InvalidCharEncoding(" ++ listText bs ++ ")"
  | .sinkRefused => "Io \x7b inner: Custom \x7b kind: Other, error: \"sink full\" \x7d, index: 0 \x7d"

/-- Why a type cannot be mapped with the current configuration. -/
inductive ConfigError where
  | missingElementStrategy (member element : String)
  | conflictingMemberKinds (ty : String)
  | ambiguousConverter (ty : String) (candidates : List String)
  | unknownConverter (name ty : String)
  | unsupportedMember (member ty : String)
  | cyclicMember (member ty : String)
  | notAnObject (ty : String)
  deriving DecidableEq, Repr

/-- The text of a configuration error. -/
def ConfigError.message : ConfigError → String
  | .missingElementStrategy m e =>
    s!"member '{m}' has no converter for '{e}' and no recursion annotation"
  | .conflictingMemberKinds t => s!"fields and properties both selected while resolving '{t}'"
  | .ambiguousConverter t cs =>
    s!"several converters target '{t}' (" ++ ", ".intercalate cs ++ "); select one by name"
  | .unknownConverter n t => s!"no converter named '{n}' targets '{t}'"
  | .unsupportedMember m t => s!"member '{m}' of type '{t}' has no converter and cannot be mapped"
  | .cyclicMember m t => s!"member '{m}' re-enters '{t}' which is already being mapped"
  | .notAnObject t => s!"'{t}' has no members to map"

/-- Why data does not fit what is expected. -/
inductive DataError where
  | unknownEnumName (ty name : String)
  | typeMismatch (expected found : String)
  | invalidLength (length : Int) (remaining : Nat)
  | invalidString (msg : String)
  | segmentOutOfRange (offset len actual : Nat)
  | lengthOverflow (len : Nat)
  deriving DecidableEq, Repr

/-- The text of a data error. -/
def DataError.message : DataError → String
  | .unknownEnumName t n => s!"'{n}' is not a variant of '{t}'"
  | .typeMismatch e f => s!"expected '{e}', found '{f}'"
  | .invalidLength l r => s!"length prefix {l} is invalid with {r} bytes remaining"
  | .invalidString m => s!"invalid string payload: {m}"
  | .segmentOutOfRange o l a => s!"segment {o}..{o + l} exceeds array of length {a}"
  | .lengthOverflow l => s!"count {l} does not fit the i32 prefix"

/-- The operations an accessor may be unable to perform. -/
inductive Access where
  | read
  | borrow
  | borrowMut
  deriving DecidableEq, Repr

/-- The verb of an access. -/
def Access.verb : Access → String
  | .read => "read"
  | .borrow => "borrow"
  | .borrowMut => "borrow mutably"

/-- Broken promises of the reflection layer, and failures reported by custom converters. -/
inductive InternalError where
  /-- A member descriptor cannot perform an access on its member. -/
  | memberAccess (what : Access) (member : String)
  /-- The typed accessor of a member cannot perform an access. -/
  | typedAccess (what : Access) (member : String)
  /-- No typed accessor of the right name stands at a member's index. -/
  | noTypedAccessor (member : String) (index : Nat)
  /-- A custom converter's own message. -/
  | converter (msg : String)
  /-- A value nests deeper than the bound its walk was given. -/
  | tooDeep
  deriving DecidableEq, Repr

/-- The text of an internal error. -/
def InternalError.message : InternalError → String
  | .memberAccess w m => s!"cannot {w.verb} member '{m}'"
  | .typedAccess w m => s!"typed accessor of '{m}' cannot {w.verb}"
  | .noTypedAccessor m i => s!"no typed accessor for '{m}' at index {i}"
  | .converter msg => msg
  | .tooDeep => "value nests too deep"

/-- A failure of the library. -/
inductive Error where
  | io (f : IoFault)
  | codec (f : CodecFault)
  | config (e : ConfigError)
  | data (e : DataError)
  | internal (e : InternalError)
  deriving DecidableEq, Repr

namespace Error

/-- A type mismatch between what was expected and what was found. -/
def mismatch (expected found : String) : Error := .data (.typeMismatch expected found)

/-- The full text of an error, prefixed by its cause. -/
def message : Error → String
  | .io f => "I/O Error: " ++ f.message
  | .codec f => "Serialization Error: " ++ f.message
  | .config e => "Configuration Error: " ++ e.message
  | .data e => "Data Error: " ++ e.message
  | .internal e => "Internal Logic Error: " ++ e.message

/-- The text of the underlying error, where there is one: the I/O, configuration or data
error without its prefix. -/
def source? : Error → Option String
  | .io f => some f.message
  | .config e => some e.message
  | .data e => some e.message
  | _ => none

/-- Whether the error is a configuration error. -/
def isConfiguration : Error → Bool
  | .config _ => true
  | _ => false

/-- Whether the error is a data error. -/
def isData : Error → Bool
  | .data _ => true
  | _ => false

end Error
end ObjectWire
