import SpecGraph.Document.Basic
import SpecGraph.Json.Reader
import SpecGraph.Manifest.Compile
import SpecGraph.Yaml.Reader

/-!
# Reading documents

A document is a mapping with the sections `schemas`, `collections` and `dispatches`, or null for a
document without declarations. Sections and members may be left out; other sections are refused. A file
whose name ends in `.json` holds JSON, and every other one YAML.
-/

namespace SpecGraph

namespace FieldDecl

/-- The member of a list of entries, or a default. -/
def memberOf (entries : List (Data × Data)) (name : String) (default : Data) : Data :=
  (Table.get? entries (.text name)).getD default

/-- The field that an entry gives, with fields inside one another up to a depth. -/
def read : (depth : Nat) → Data → Except Error FieldDecl
  | 0, _ => throw (.fault .tooDeep)
  | depth + 1, entry =>
      match entry.bare with
      | .map entries => do
          let readItems (value : Data) : Except Error (List FieldDecl) :=
            match value.items with
            | .ok items => items.mapM (read depth)
            | .error fault => throw (.fault fault)
          let struct := memberOf entries "struct" .null
          let inner ←
            match struct.bare with
            | .map members => some <$> readItems (memberOf members "fields" (.list []))
            | .list [] => pure (some [])
            | _ => pure none
          let name := memberOf entries "name" (.text "")
          let type := memberOf entries "type" .null
          let optional := memberOf entries "optional" (.bool false)
          return match inner with
          | some fields => inline name type optional fields
          | none => plain name type struct optional
      | _ => throw (.document (.fieldNotMapping entry.kindName))

/-- The fields that the items of a value give, with room for a number of levels. -/
def readList (room : Nat) (value : Data) : Except Error (List FieldDecl) :=
  match value.items with
  | .ok items => items.mapM (read room)
  | .error fault => throw (.fault fault)

/-- The greatest depth of fields inside one another. -/
def mostLevels : Nat := roomWithin 20 2

end FieldDecl

namespace Document

/-- A member of an entry of a section, which has to be a mapping. -/
def entryMember (entry : Data) (name : String) (default : Data) : Except Error Data :=
  match entry.memberOr name default with
  | .ok value => pure value
  | .error fault => throw (.fault fault)

/-- The schema that an entry gives, with room for a number of levels. -/
def readSchema (room : Nat) (entry : Data) : Except Error SchemaDecl := do
  let name ← entryMember entry "name" (.text "")
  let fields ← FieldDecl.readList room (← entryMember entry "fields" (.list []))
  return ⟨name, fields, ← entryMember entry "compact" (.bool false)⟩

/-- The names of the key fields; a single one need not be in a list. -/
def readKey (key : Data) : List Data :=
  match key.bare with
  | .list names => names
  | _ => [key]

/-- The collection that an entry gives, with room for a number of levels. -/
def readCollection (room : Nat) (entry : Data) : Except Error CollectionDecl := do
  let key ← entryMember entry "key" (.list [])
  let name ← entryMember entry "name" (.text "")
  let fields ← FieldDecl.readList room (← entryMember entry "fields" (.list []))
  return ⟨name, readKey key, fields⟩

/-- The dispatch that an entry gives, with room for a number of levels. -/
def readDispatch (room : Nat) (entry : Data) : Except Error DispatchDecl := do
  let name ← entryMember entry "name" (.text "")
  let request ← entryMember entry "request" .null
  match ← entryMember entry "fields" .null with
  | .null => return ⟨name, request, none⟩
  | fields => return ⟨name, request, some (← FieldDecl.readList room fields)⟩

/-- The entries of a section; a section that counts as false has none. -/
def sectionEntries (entries : List (Data × Data)) (name : String) : Except Error (List Data) :=
  let value := FieldDecl.memberOf entries name .null
  if value.isTruthy then
    match value.items with
    | .ok items => pure items
    | .error fault => throw (.fault fault)
  else pure []

/-- The names of the sections. -/
def sections : List String := ["schemas", "collections", "dispatches"]

/-- The sections of a mapping that are none of a document, in order. -/
def unknownSections (entries : List (Data × Data)) : Except Error (List Data) := do
  let unknown := (entries.map Prod.fst).filter fun key =>
    !sections.any fun name => key.same (.text name)
  match Data.sort? unknown with
  | none => throw (.fault .wrongKind)
  | some unknown =>
      if unknown.any Data.hasLongNumeral then throw (.fault .badValue) else return unknown

/-- The document that a value gives, with room for a number of levels of fields inside one another. -/
def ofDataWithin (room : Nat) (value : Data) : Except Error Document :=
  match value.bare with
  | .null => pure empty
  | .map entries => do
      let unknown ← unknownSections entries
      if !unknown.isEmpty then throw (.document (.unknownSections unknown))
      let schemas ← (← sectionEntries entries "schemas").mapM (readSchema room)
      let collections ← (← sectionEntries entries "collections").mapM (readCollection room)
      let dispatches ← (← sectionEntries entries "dispatches").mapM (readDispatch room)
      return ⟨schemas, collections, dispatches⟩
  | _ => throw (.document (.notMapping value.kindName))

/-- The document of a YAML text, given the number of its reading and with room for a number of levels of fields. -/
def ofYamlWithin (room reading : Nat) (text : String) : Except Error Document := do
  ofDataWithin room (← Yaml.read reading text)

/-- The document of a JSON text, with room for a number of levels of fields. -/
def ofJsonWithin (room : Nat) (text : String) : Except Error Document := do ofDataWithin room (← Json.read text)

/-- The document that a value gives. -/
def ofData (value : Data) : Except Error Document := ofDataWithin FieldDecl.mostLevels value

/-- The document of a YAML text, given the number of its reading. -/
def ofYaml (reading : Nat) (text : String) : Except Error Document := ofYamlWithin FieldDecl.mostLevels reading text

/-- The document of a JSON text. -/
def ofJson (text : String) : Except Error Document := ofJsonWithin FieldDecl.mostLevels text

/-- The document in a file, given the number of its reading. -/
def load (reading : Nat) (path : Path) : Job Document := do
  Job.ensurePossible path
  match (← get).files.read? path with
  | none => throw .file
  | some text =>
      match if path.suffix = ".json" then ofJson text else ofYaml reading text with
      | .ok document => return document
      | .error error => throw error

end Document

end SpecGraph
