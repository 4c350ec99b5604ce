import SpecGraph.Yaml.Scalar
import SpecGraph.Yaml.Token.Lexer

/-!
# The nodes of a document

A text holds at most one document, whose tokens form nodes: scalars, sequences and mappings, each with
a type. The parts of a node are given by their numbers, because an alias stands for the node that its
anchor was given, which may be a node around it. An anchor is given once. Where a node is left out there
is an empty plain scalar.
-/

namespace SpecGraph

namespace Yaml

/-- A node of a document, whose parts are given by their numbers. -/
inductive Node where
  | scalar (tag : Tag) (text : List Char)
  | sequence (tag : Tag) (items : List Nat)
  | mapping (tag : Tag) (entries : List (Nat × Nat))
deriving Inhabited

/-- The type of a node. -/
def Node.tag : Node → Tag
  | scalar tag _ => tag
  | sequence tag _ => tag
  | mapping tag _ => tag

/-- A node with another type. -/
def Node.withTag (tag : Tag) : Node → Node
  | scalar _ text => scalar tag text
  | sequence _ items => sequence tag items
  | mapping _ entries => mapping tag entries

/-- The nodes of a document by number, and the number of its root. -/
structure Composition where
  /-- The nodes. -/
  nodes : Array Node
  /-- The number of the root. -/
  root : Nat
deriving Inhabited

/-- What is left of a text, and what was found before. -/
structure Parse where
  /-- The tokens from here on. -/
  lexer : Lexer
  /-- More than the number of tokens of the text. -/
  limit : Nat
  /-- The anchors so far, with the numbers of their nodes. -/
  anchors : List (String × Nat)
  /-- The meanings of the handles of tags. -/
  handles : List (String × String)
  /-- The nodes so far. -/
  nodes : Array Node

/-- A step through the tokens, which fails where they form no document. -/
abbrev Parsing (α : Type) := StateT Parse (Except Error) α

namespace Parsing

/-- The next token; after the last one there is the end again and again. -/
def peek : Parsing Token := do
  let parse ← get
  let lexer ← parse.lexer.settle parse.limit
  set { parse with lexer }
  return lexer.first

/-- Drops the next token, which is settled. -/
def drop : Parsing Unit := modify fun parse => { parse with lexer := parse.lexer.takeFirst }

/-- The next token is one of some tokens. -/
def isNext (tokens : List Token) : Parsing Bool := return tokens.contains (← peek)

/-- Drops the next token if it is the one that is given. -/
def accept (token : Token) : Parsing Bool := do
  if (← peek) = token then
    drop
    return true
  else return false

/-- Drops the next token, which has to be the one that is given. -/
def expect (token : Token) : Parsing Unit := do
  if !(← accept token) then throw .notYaml

/-- The meanings of handles that need no directive. -/
def defaultHandles : List (String × String) := [("!", "!"), ("!!", Tag.standard)]

/-- The full name of a tag. -/
def fullTag (tag : TagText) : Parsing String := do
  match tag.handle with
  | none => return tag.suffix
  | some handle =>
      match (← get).handles.lookup handle with
      | some start => return start ++ tag.suffix
      | none => throw .notYaml

/-- Adds a node and answers its number. -/
def add (node : Node) : Parsing Nat := do
  let number := (← get).nodes.size
  modify fun parse => { parse with nodes := parse.nodes.push node }
  return number

/-- A node that is left out. -/
def absent : Parsing Nat := add (.scalar .null [])

/-- Adds a node with its anchor, which has not been given before. -/
def declare (anchor : Option String) (node : Node) : Parsing Nat := do
  match anchor with
  | none => add node
  | some name =>
      if ((← get).anchors.lookup name).isSome then throw .notYaml
      let number ← add node
      modify fun parse => { parse with anchors := (name, number) :: parse.anchors }
      return number

/-- Puts a node in the place of another one. -/
def replace (number : Nat) (node : Node) : Parsing Nat := do
  modify fun parse => { parse with nodes := parse.nodes.setIfInBounds number node }
  return number

/-- The anchor and the tag before a node, in any order. -/
def properties : Parsing (Option String × Option String) := do
  match ← peek with
  | .anchor name =>
      drop
      match ← peek with
      | .tag tag =>
          drop
          return (some name, some (← fullTag tag))
      | _ => return (some name, none)
  | .tag tag =>
      drop
      match ← peek with
      | .anchor name =>
          drop
          return (some name, some (← fullTag tag))
      | _ => return (none, some (← fullTag tag))
  | _ => return (none, none)

/-- The type of a collection. -/
def collectionTag (given : Option String) (usual : Tag) : Tag :=
  match given with
  | some name => if name == "!" then usual else Tag.ofName name
  | none => usual

/-- The type of a scalar. -/
def scalarTag (given : Option String) (text : List Char) (plain : Bool) : Tag :=
  match given with
  | some name => if name == "!" then Tag.ofPlain text else Tag.ofName name
  | none => if plain then Tag.ofPlain text else .text

/-- The node of an alias. -/
def aliased (name : String) : Parsing Nat := do
  match (← get).anchors.lookup name with
  | some number => return number
  | none => throw .notYaml

/-- The tokens that may start a block collection. -/
structure Place where
  /-- The node may be a block collection. -/
  inBlock : Bool
  /-- The node may be a block sequence that is not indented. -/
  indentless : Bool

/-- A node inside a flow collection. -/
def Place.flow : Place := ⟨false, false⟩

/-- A node of a block sequence, or a whole document. -/
def Place.block : Place := ⟨true, false⟩

/-- A node of a block mapping. -/
def Place.entry : Place := ⟨true, true⟩

/-- What a node is, as its first token tells. -/
inductive Opening where
  | scalar (text : List Char) (plain : Bool)
  | flowSequence | flowMapping | blockSequence | indentlessSequence | blockMapping
  | absent
deriving DecidableEq

/-- What a node in a place is, if it can start with a token. -/
def opening (place : Place) (hasProperties : Bool) (next : Token) : Parsing Opening :=
  if place.indentless && next == .blockEntry then return .indentlessSequence
  else
    match next with
    | .scalar text plain => return .scalar text plain
    | .flowSequenceStart => return .flowSequence
    | .flowMappingStart => return .flowMapping
    | .blockSequenceStart =>
        if place.inBlock then return .blockSequence else throw .notYaml
    | .blockMappingStart =>
        if place.inBlock then return .blockMapping else throw .notYaml
    | _ => if hasProperties then return .absent else throw .notYaml

mutual

/-- The node from here on, inside which there is room for some levels of collections. -/
def node (place : Place) (room : Nat) : (fuel : Nat) → Parsing Nat
  | 0 => throw .notYaml
  | fuel + 1 => do
      match ← peek with
      | .alias name =>
          drop
          aliased name
      | _ =>
          let (anchor, tag) ← properties
          let found ← opening place (anchor.isSome || tag.isSome) (← peek)
          match found with
          | .scalar text plain =>
              let number ← declare anchor (.scalar (scalarTag tag text plain) text)
              drop
              return number
          | .absent => declare anchor (.scalar (scalarTag tag [] true) [])
          | .blockMapping => mapping anchor tag true room fuel
          | .flowMapping => mapping anchor tag false room fuel
          | other => sequence anchor tag other room fuel
termination_by structural fuel => fuel

/-- A sequence from its first token on, which is its own in all but the indentless form. -/
def sequence (anchor tag : Option String) (form : Opening) (room : Nat) : (fuel : Nat) → Parsing Nat
  | 0 => throw .notYaml
  | fuel + 1 => do
      if room = 0 then throw (.fault .tooDeep)
      let tag := collectionTag tag .sequence
      let number ← declare anchor (.sequence tag [])
      let items ←
        match form with
        | .indentlessSequence => indentlessItems (room - 1) fuel
        | .blockSequence => do
            drop
            blockItems (room - 1) fuel
        | _ => do
            drop
            flowItems true (room - 1) fuel
      replace number (.sequence tag items)
termination_by structural fuel => fuel

/-- A mapping from its first token on. -/
def mapping (anchor tag : Option String) (inBlock : Bool) (room : Nat) : (fuel : Nat) → Parsing Nat
  | 0 => throw .notYaml
  | fuel + 1 => do
      if room = 0 then throw (.fault .tooDeep)
      let tag := collectionTag tag .mapping
      let number ← declare anchor (.mapping tag [])
      drop
      let entries ←
        if inBlock then blockEntries (room - 1) fuel else flowEntries true (room - 1) fuel
      replace number (.mapping tag entries)
termination_by structural fuel => fuel

/-- The items of a block sequence up to its end. -/
def blockItems (room : Nat) : (fuel : Nat) → Parsing (List Nat)
  | 0 => throw .notYaml
  | fuel + 1 => do
      if ← accept .blockEntry then
        let item ←
          if ← isNext [.blockEntry, .blockEnd] then absent else node .block room fuel
        return item :: (← blockItems room fuel)
      else
        expect .blockEnd
        return []
termination_by structural fuel => fuel

/-- The items of a block sequence that has no end of its own. -/
def indentlessItems (room : Nat) : (fuel : Nat) → Parsing (List Nat)
  | 0 => throw .notYaml
  | fuel + 1 => do
      if ← accept .blockEntry then
        let item ←
          if ← isNext [.blockEntry, .key, .value, .blockEnd] then absent
          else node .block room fuel
        return item :: (← indentlessItems room fuel)
      else return []
termination_by structural fuel => fuel

/-- The entries of a block mapping up to its end. -/
def blockEntries (room : Nat) : (fuel : Nat) → Parsing (List (Nat × Nat))
  | 0 => throw .notYaml
  | fuel + 1 => do
      if ← isNext [.key] then
        let key ← blockPart .key room fuel
        let value ← blockPart .value room fuel
        return (key, value) :: (← blockEntries room fuel)
      else
        expect .blockEnd
        return []
termination_by structural fuel => fuel

/-- The node after a mark of a block mapping; without the mark the node is left out. -/
def blockPart (mark : Token) (room : Nat) : (fuel : Nat) → Parsing Nat
  | 0 => throw .notYaml
  | fuel + 1 => do
      if ← accept mark then
        if ← isNext [.key, .value, .blockEnd] then absent else node .entry room fuel
      else absent
termination_by structural fuel => fuel

/-- The items of a flow sequence up to its end. -/
def flowItems (first : Bool) (room : Nat) : (fuel : Nat) → Parsing (List Nat)
  | 0 => throw .notYaml
  | fuel + 1 => do
      if ← accept .flowSequenceEnd then return []
      if !first then expect .flowEntry
      if ← accept .key then
        if room = 0 then throw (.fault .tooDeep)
        let pair ← add (.mapping .mapping [])
        let key ← flowPart [.value, .flowEntry, .flowSequenceEnd] (room - 1) fuel
        let value ←
          if ← accept .value then flowPart [.flowEntry, .flowSequenceEnd] (room - 1) fuel else absent
        let pair ← replace pair (.mapping .mapping [(key, value)])
        return pair :: (← flowItems false room fuel)
      else if ← accept .flowSequenceEnd then return []
      else
        let item ← node .flow room fuel
        return item :: (← flowItems false room fuel)
termination_by structural fuel => fuel

/-- The entries of a flow mapping up to its end. -/
def flowEntries (first : Bool) (room : Nat) : (fuel : Nat) → Parsing (List (Nat × Nat))
  | 0 => throw .notYaml
  | fuel + 1 => do
      if ← accept .flowMappingEnd then return []
      if !first then expect .flowEntry
      if ← accept .key then
        let key ← flowPart [.value, .flowEntry, .flowMappingEnd] room fuel
        let value ←
          if ← accept .value then flowPart [.flowEntry, .flowMappingEnd] room fuel else absent
        return (key, value) :: (← flowEntries false room fuel)
      else if ← accept .flowMappingEnd then return []
      else
        let key ← node .flow room fuel
        let value ← absent
        return (key, value) :: (← flowEntries false room fuel)
termination_by structural fuel => fuel

/-- A node of a flow collection, left out before one of some tokens. -/
def flowPart (ends : List Token) (room : Nat) : (fuel : Nat) → Parsing Nat
  | 0 => throw .notYaml
  | fuel + 1 => do
      if ← isNext ends then absent else node .flow room fuel

termination_by structural fuel => fuel

end

/-- The directives before a document, given whether the version was told. -/
def directives (versioned : Bool) : (fuel : Nat) → Parsing Unit
  | 0 => throw .notYaml
  | fuel + 1 => do
      match ← peek with
      | .directive (.version major _) =>
          drop
          if versioned || major != 1 then throw .notYaml
          directives true fuel
      | .directive (.tag handle meaning) =>
          drop
          if ((← get).handles.lookup handle).isSome then throw .notYaml
          modify fun parse => { parse with handles := (handle, meaning) :: parse.handles }
          directives versioned fuel
      | .directive .reserved =>
          drop
          directives versioned fuel
      | _ => pure ()

/-- The marks of the end of a document, as many as there are. -/
def documentEnds : (fuel : Nat) → Parsing Unit
  | 0 => pure ()
  | fuel + 1 => do
      if ← accept .documentEnd then documentEnds fuel

/-- The next token is a directive. -/
def isDirective : Parsing Bool := do
  match ← peek with
  | .directive _ => return true
  | _ => return false

/-- The end of the text, which no second document may precede. -/
def finish (fuel : Nat) : Parsing Unit := do
  documentEnds fuel
  if !(← isNext [.streamEnd]) then
    modify fun parse => { parse with handles := [] }
    directives false fuel
    throw .notYaml

/-- The root of the document of a whole text, or nothing if there is none, with room for a number of collections inside
one another. -/
def document (room fuel : Nat) : Parsing (Option Nat) := do
  if ← isNext [.streamEnd] then return none
  let root ←
    if (← isDirective) || (← isNext [.documentStart]) then do
      directives false fuel
      modify fun parse => { parse with handles := parse.handles ++ defaultHandles }
      expect .documentStart
      if (← isDirective) || (← isNext [.documentStart, .documentEnd, .streamEnd]) then absent
      else node .block room fuel
    else do
      modify fun parse => { parse with handles := defaultHandles }
      node .block room fuel
  finish fuel
  return some root

end Parsing

/-- The document of a text, or nothing if it holds none, with room for a number of collections inside one another. -/
def Composition.ofText (room : Nat) (text : List Char) : Except Error (Option Composition) := do
  let lexer ← Lexer.ofText text
  let size := text.length + 2
  let (root, parse) ← (Parsing.document room (8 * size)).run ⟨lexer, 4 * size, [], [], #[]⟩
  return root.map fun number => ⟨parse.nodes, number⟩

end Yaml

end SpecGraph
