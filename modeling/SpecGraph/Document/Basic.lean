import SpecGraph.Data.Order

/-!
# Declaration documents

A document lists schemas, collections and dispatches to declare. It is read without checking names and
types, so that any value may stand in their place until the document is checked. A field either has
inline fields, which a mapping in its `struct` member gives, or the value of that member as it stands.
-/

namespace SpecGraph

/-- A field of a document. -/
inductive FieldDecl where
  /-- A field with a primitive type or a reference; null stands for what is not given. -/
  | plain (name type struct optional : Data)
  /-- A field with inline fields. -/
  | inline (name type optional : Data) (fields : List FieldDecl)
deriving Inhabited

/-- A schema of a document. -/
structure SchemaDecl where
  /-- The name of the schema. -/
  name : Data
  /-- The fields in their order. -/
  fields : List FieldDecl
  /-- The flag that asks for a denser encoding. -/
  compact : Data
deriving Inhabited

/-- A collection of a document. -/
structure CollectionDecl where
  /-- The name of the collection. -/
  name : Data
  /-- The names of the key fields. -/
  key : List Data
  /-- The fields in their order. -/
  fields : List FieldDecl
deriving Inhabited

/-- A dispatch of a document. -/
structure DispatchDecl where
  /-- The name of the dispatch. -/
  name : Data
  /-- The name of the schema of its requests, or null. -/
  request : Data
  /-- The inline fields of its requests, if they are given. -/
  fields : Option (List FieldDecl)
deriving Inhabited

/-- A declaration document. -/
structure Document where
  /-- The schemas in their order. -/
  schemas : List SchemaDecl
  /-- The collections in their order. -/
  collections : List CollectionDecl
  /-- The dispatches in their order. -/
  dispatches : List DispatchDecl
deriving Inhabited

namespace FieldDecl

/-- The name of a field. -/
def name : FieldDecl → Data
  | plain name .. => name
  | inline name .. => name

/-- The type of a field. -/
def type : FieldDecl → Data
  | plain _ type .. => type
  | inline _ type .. => type

/-- The field may be left out, if this counts as true. -/
def optional : FieldDecl → Data
  | plain _ _ _ optional => optional
  | inline _ _ optional _ => optional

mutual

/-- Two fields with the same members. -/
def same : FieldDecl → FieldDecl → Bool
  | plain name₁ type₁ struct₁ optional₁, plain name₂ type₂ struct₂ optional₂ =>
      name₁.alike name₂ && type₁.alike type₂ && struct₁.alike struct₂ && optional₁.alike optional₂
  | inline name₁ type₁ optional₁ fields₁, inline name₂ type₂ optional₂ fields₂ =>
      name₁.alike name₂ && type₁.alike type₂ && optional₁.alike optional₂ && sameList fields₁ fields₂
  | _, _ => false

/-- Two lists of the same fields in the same order. -/
def sameList : List FieldDecl → List FieldDecl → Bool
  | [], [] => true
  | left :: lefts, right :: rights => same left right && sameList lefts rights
  | _, _ => false

end

end FieldDecl

/-- Two lists of the same length whose elements correspond. -/
def allSame {α : Type} (same : α → α → Bool) : List α → List α → Bool
  | [], [] => true
  | left :: lefts, right :: rights => same left right && allSame same lefts rights
  | _, _ => false

namespace SchemaDecl

/-- Two schemas with the same members. -/
def same (left right : SchemaDecl) : Bool :=
  left.name.alike right.name && FieldDecl.sameList left.fields right.fields &&
    left.compact.alike right.compact

end SchemaDecl

namespace CollectionDecl

/-- Two collections with the same members. -/
def same (left right : CollectionDecl) : Bool :=
  left.name.alike right.name && (Data.list left.key).same (.list right.key) &&
    FieldDecl.sameList left.fields right.fields

end CollectionDecl

namespace DispatchDecl

/-- Two dispatches with the same members. -/
def same (left right : DispatchDecl) : Bool :=
  left.name.alike right.name && left.request.alike right.request &&
    match left.fields, right.fields with
    | none, none => true
    | some first, some second => FieldDecl.sameList first second
    | _, _ => false

end DispatchDecl

namespace Document

/-- The document without declarations. -/
def empty : Document := ⟨[], [], []⟩

/-- Two documents with the same declarations in the same order. -/
def same (left right : Document) : Bool :=
  allSame SchemaDecl.same left.schemas right.schemas &&
    allSame CollectionDecl.same left.collections right.collections &&
    allSame DispatchDecl.same left.dispatches right.dispatches

end Document

end SpecGraph
