import SpecGraph.Data.Access
import SpecGraph.Error.Message
import SpecGraph.FieldTag
import SpecGraph.Manifest.Change
import SpecGraph.Name
import SpecGraph.Text.Encoding

/-!
# Errors

Every way in which an operation can fail, by its cause. Errors of the package itself carry a message, a
stable code and details; a failed stage carries its cause and a failed run over several builders the
error of each.
-/

namespace SpecGraph

/-- The kinds of things that are declared. -/
inductive DeclarationKind where
  | schema | collection | dispatch | field
deriving DecidableEq, Inhabited

/-- The three stages of a build, in their order. -/
inductive Stage where
  | schema | storage | dispatch
deriving DecidableEq, Inhabited

/-- The name of a kind of declaration. -/
def DeclarationKind.name : DeclarationKind → String
  | schema => "schema"
  | collection => "collection"
  | dispatch => "dispatch"
  | field => "field"

/-- The name of a stage. -/
def Stage.name : Stage → String
  | schema => "schema"
  | storage => "storage"
  | dispatch => "dispatch"

/-- What was asked of a builder that is finalized. -/
inductive FrozenUse where
  /-- To finalize it again. -/
  | finalize
  /-- To declare something in it. -/
  | declare
  /-- To declare something in one of its namespaces. -/
  | declareInto (space : String)
deriving DecidableEq, Inhabited

/-- What a reference that names no schema stands in. -/
inductive ReferenceFault where
  | field (field : Data) (schema : String) (target : Data)
  | collection (collection : String) (target : Data)
  | dispatch (dispatch : String) (target : Data)
  /-- There is no schema manifest to look the reference up in. -/
  | noManifest (path : String)
deriving Inhabited

/-- What is wrong with the key of a collection. -/
inductive KeyFault where
  | empty (collection : String)
  | undeclared (collection : String) (schema : Data) (names : List Data)
deriving Inhabited

/-- What is wrong with a declaration document. -/
inductive DocumentFault where
  | notMapping (kind : String)
  | fieldNotMapping (kind : String)
  | unknownSections (names : List Data)
  | invalid (problems : List String)
deriving Inhabited

/-- Why an operation failed. -/
inductive Error where
  /-- A reference is no name. -/
  | name (reference : Data) (fault : NameFault)
  /-- A name is taken in its scope. -/
  | duplicate (kind : DeclarationKind) (name : Data) (scope : Option String)
  /-- A value is no field type. -/
  | unknownType (value : Data)
  /-- A builder is finalized. -/
  | frozen (use : FrozenUse) (root : String)
  /-- A stage failed. -/
  | compilation (stage : Stage) (root : String) (cause : Error)
  /-- Some builders could not be finalized. -/
  | finalization (failures : List (String × Error))
  /-- A declaration document is not valid. -/
  | document (fault : DocumentFault)
  /-- A manifest would break what was compiled before. -/
  | incompatible (changes : List Change)
  /-- A reference names no compiled schema. -/
  | reference (fault : ReferenceFault)
  /-- The key of a collection is not valid. -/
  | key (fault : KeyFault)
  /-- A build callback gave up. -/
  | callback (message : String)
  /-- A stage refused to run. -/
  | compiler (message : String)
  /-- A value cannot be read as asked. -/
  | fault (fault : Fault)
  /-- Settings are not valid: the fields with the kinds of their problems. -/
  | settings (problems : List (String × String))
  /-- Settings cannot be looked up in the way that was asked. -/
  | lookup
  /-- The process is to end: the arguments of settings are refused or ask for help, or a pipeline ends it. -/
  | ended
  /-- Two options of settings have one spelling. -/
  | clash
  /-- The home folder of a path is not known. -/
  | homeless
  /-- A file cannot be read in the encoding that was asked for. -/
  | decoding (fault : Text.DecodingFault)
  /-- A text is not YAML. -/
  | notYaml
  /-- A text is not JSON. -/
  | notJson
  /-- A file cannot be read or written. -/
  | file
  /-- There is no builder of this number. -/
  | noBuilder
  /-- There is no schema of this name. -/
  | noSchema
  /-- There is no declaration module of this name. -/
  | noModule
deriving Inhabited

namespace FrozenUse

/-- The refusal in words. -/
def message (root : String) : FrozenUse → String
  | finalize => "Builder is already finalized"
  | declare => "Cannot declare into " ++ root ++ ": builder is finalized"
  | declareInto space =>
      "Cannot declare into namespace " ++ Message.inQuotes space ++ ": builder is finalized"

end FrozenUse

namespace ReferenceFault

/-- The fault in words. -/
def message : ReferenceFault → String
  | field name schema target =>
      "Field " ++ Message.inQuotes name.display ++ " of schema " ++ Message.inQuotes schema ++
        " references unknown schema " ++ Message.inQuotes target.display
  | collection name target =>
      "Collection " ++ Message.inQuotes name ++ " references unknown schema " ++
        Message.inQuotes target.display
  | dispatch name target =>
      "Dispatch " ++ Message.inQuotes name ++ " references unknown request type " ++
        Message.inQuotes target.display
  | noManifest path => "No schema manifest at " ++ path

end ReferenceFault

namespace KeyFault

/-- The fault in words. -/
def message : KeyFault → String
  | empty collection => "Collection " ++ Message.inQuotes collection ++ " has no key"
  | undeclared collection schema names =>
      "Collection " ++ Message.inQuotes collection ++ " key field(s) " ++
        (Data.list names).display ++ " are not declared on schema " ++
          Message.inQuotes schema.display

end KeyFault

namespace DocumentFault

/-- The fault in words. -/
def message : DocumentFault → String
  | notMapping kind => "Declaration document must be a mapping, got " ++ kind
  | fieldNotMapping kind => "Field entry must be a mapping, got " ++ kind
  | unknownSections names => "Unknown top-level section(s): " ++ (Data.list names).display
  | invalid found => "Declaration document has " ++ Text.natText found.length ++ " error(s)"

/-- Every problem that was found. -/
def problems : DocumentFault → List String
  | unknownSections names => names.map fun name => "unknown section " ++ Message.inQuotes name.display
  | invalid found => found
  | _ => []

end DocumentFault

namespace Fault

/-- The name of the kind of a fault. -/
def kindName : Fault → String
  | missingKey _ => "KeyError"
  | missingMember => "AttributeError"
  | wrongKind => "TypeError"
  | badValue => "ValueError"
  | notFinite => "OverflowError"
  | outOfRange => "IndexError"
  | unwritable => "UnicodeEncodeError"
  | tooDeep => "RecursionError"

end Fault

/-- The name of the kind of a fault of an encoding. -/
def decodingKindName : Text.DecodingFault → String
  | .unknownEncoding => "LookupError"
  | .badBytes => "UnicodeDecodeError"
  | .noByteOrder => "UnicodeError"

namespace Error

/-- The name of the kind of an error. -/
def kindName : Error → String
  | name .. => "MalformedNamespaceReferenceError"
  | duplicate .. => "DuplicateDeclarationError"
  | unknownType _ => "UnknownFieldTypeError"
  | frozen .. => "BuilderFrozenError"
  | compilation .. => "CompilationFailedError"
  | finalization _ => "FinalizationError"
  | document _ => "DeclarationFileError"
  | incompatible _ => "CompatibilityError"
  | reference _ => "UnresolvedReferenceError"
  | key _ => "InvalidKeyError"
  | callback _ => "CallbackError"
  | compiler _ => "CompilerError"
  | fault cause => cause.kindName
  | settings _ => "ValidationError"
  | lookup => "SettingsError"
  | ended => "SystemExit"
  | clash => "ArgumentError"
  | homeless => "RuntimeError"
  | decoding cause => decodingKindName cause
  | notYaml => "YAMLError"
  | notJson => "JSONDecodeError"
  | file => "OSError"
  | noBuilder => "IndexError"
  | noSchema => "LookupError"
  | noModule => "ModuleNotFoundError"

mutual

/-- The message of an error. An error without words of its own shows the name of its kind. -/
def message : Error → String
  | name origin problem => Message.malformedName origin.inner problem.reason
  | duplicate kind taken scope => Message.duplicate kind.name taken.display scope
  | unknownType value => Message.unknownType value.display (FieldTag.suggestions value)
  | frozen use root => use.message root
  | compilation stage root cause => Message.compilation stage.name root cause.message
  | finalization failures => Message.finalization (failureMessages failures)
  | document problem => problem.message
  | incompatible changes => Message.incompatible (changes.map Change.text)
  | reference problem => problem.message
  | key problem => problem.message
  | callback text => text
  | compiler text => text
  | fault (.missingKey absent) => absent.inner
  | fault other => "<" ++ other.kindName ++ ">"
  | settings _ => "<ValidationError>"
  | lookup => "<SettingsError>"
  | ended => "<SystemExit>"
  | clash => "<ArgumentError>"
  | homeless => "<RuntimeError>"
  | decoding cause => "<" ++ decodingKindName cause ++ ">"
  | notYaml => "<YAMLError>"
  | notJson => "<JSONDecodeError>"
  | file => "<OSError>"
  | noBuilder => "<IndexError>"
  | noSchema => "<LookupError>"
  | noModule => "<ModuleNotFoundError>"

/-- The roots and messages of failures. -/
def failureMessages : List (String × Error) → List (String × String)
  | [] => []
  | (root, error) :: rest => (root, error.message) :: failureMessages rest

end

/-- The stable code of an error of the package. -/
def code? : Error → Option String
  | name .. => some "MALFORMED_NAMESPACE_REFERENCE"
  | duplicate .. => some "DUPLICATE_DECLARATION"
  | unknownType _ => some "UNKNOWN_FIELD_TYPE"
  | frozen .. => some "BUILDER_FROZEN"
  | compilation .. => some "COMPILATION_FAILED"
  | finalization _ => some "FINALIZATION_FAILED"
  | document _ => some "INVALID_DECLARATION_FILE"
  | incompatible _ => some "INCOMPATIBLE_CHANGE"
  | _ => none

/-- The error ends the process, and what handles exceptions lets it pass. -/
def endsProcess : Error → Bool
  | ended => true
  | _ => false

theorem eq_ended_of_endsProcess {error : Error} (ends : error.endsProcess = true) : error = ended := by
  cases error with
  | ended => rfl
  | _ => cases ends

/-- An error of the package: one with a code. -/
def isPackageError (error : Error) : Bool := error.code?.isSome

/-- The details of an error of the package. -/
def details : Error → Data
  | name origin problem =>
      .object [("reference", origin), ("reason", .text problem.reason)]
  | duplicate kind taken scope =>
      .object [("kind", .text kind.name), ("name", taken), ("scope", .optionalText scope)]
  | unknownType value =>
      .object [("type", value), ("suggestions", .texts (FieldTag.suggestions value))]
  | frozen _ root => .object [("spec_root", .text root)]
  | compilation stage root _ =>
      .object [("stage", .text stage.name), ("output_root", .text root)]
  | finalization failures => .object [("spec_roots", .texts (failures.map Prod.fst))]
  | document problem => .object [("errors", .texts problem.problems)]
  | incompatible changes => .object [("paths", .texts (changes.map Change.path))]
  | _ => .object []

/-- An error has a message of its own, and not only a kind. -/
def hasMessage : Error → Bool
  | fault (.missingKey _) => true
  | reference _ => true
  | key _ => true
  | callback _ => true
  | compiler _ => true
  | error => error.isPackageError

end Error

end SpecGraph
