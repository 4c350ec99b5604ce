import SpecGraph.Data.Scatter
import SpecGraph.Yaml.Node
import SpecGraph.Yaml.Value

/-!
# Reading YAML

A YAML text is read as the nodes that it composes, and these as values. The values of a text are in one
store, so that a value that stands in several places is one value.

The value of a node follows from its type. A scalar has its value as soon as it is reached. A collection
is only noted, and gets its parts later, when those that were noted before it have theirs; so a
collection may be a part of itself, and of two faults the one nearer to the root is met first.

The keys of a mapping have to be values that can be keys; of several entries with one key the last one
counts, in the place of the first. An entry under the merge key adds the entries of the mappings it names
before those of its own mapping, so that its own entries prevail and earlier mappings prevail over later
ones. This changes the node of the mapping, for all that name it.
-/

namespace SpecGraph

namespace Yaml

/-- What is known of the values of a document. -/
structure Construction where
  /-- The nodes by number. -/
  nodes : Array Node
  /-- The outermost layers of the values that were reached: those of nodes by the number of the node, and
  then those of pairs. -/
  layers : Array (Option (Layer Data))
  /-- The collections without parts, the last one first. -/
  noted : List Nat

/-- A step in the construction of values. -/
abbrev Building (α : Type) := StateT Construction (Except Error) α

namespace Building

/-- The node of a number. -/
def node (number : Nat) : Building Node := return (← get).nodes.getD number default

/-- Replaces the node of a number. -/
def setNode (number : Nat) (node : Node) : Building Unit :=
  modify fun state => { state with nodes := state.nodes.setIfInBounds number node }

/-- Gives a node its layer. -/
def setLayer (number : Nat) (layer : Layer Data) : Building Unit :=
  modify fun state => { state with layers := state.layers.setIfInBounds number (some layer) }

/-- Notes a collection, which is empty at first. -/
def note (number : Nat) (layer : Layer Data) : Building Unit := do
  setLayer number layer
  modify fun state => { state with noted := number :: state.noted }

/-- Adds the layer of a pair and answers its number. -/
def addPair (first second : Nat) : Building Nat := do
  let state ← get
  set { state with layers := state.layers.push (some (.pair first second)) }
  return state.layers.size

/-- The text of a scalar, or of the default value of a mapping. -/
def scalarText : (fuel : Nat) → (number : Nat) → Building (List Char)
  | 0, _ => throw (.fault .tooDeep)
  | fuel + 1, number => do
      match ← node number with
      | .scalar _ text => return text
      | .sequence .. => throw .notYaml
      | .mapping _ entries => do
          let nodes := (← get).nodes
          match entries.find? fun entry => (nodes.getD entry.1 default).tag == .default with
          | some (_, value) => scalarText fuel value
          | none => throw .notYaml

/-- The value of a node that is no collection. A time has to be written as a scalar. -/
def leaf (number : Nat) : Building Data := do
  let found ← node number
  if !found.tag.isLeaf then throw .notYaml
  let text ← scalarText ((← get).nodes.size + 1) number
  match found.tag, found with
  | .timestamp, .mapping .. => throw (.fault .wrongKind)
  | tag, _ => MonadExcept.ofExcept (readScalar tag text)

/-- Reaches a node. -/
def reach (reading number : Nat) : Building Unit := do
  match ((← get).layers.getD number none) with
  | some _ => return ()
  | none =>
      match (← node number).tag with
      | .sequence => note number (.list [])
      | .ordered => note number (.list [])
      | .pairs => note number (.list [])
      | .mapping => note number (.map [])
      | .set => note number (.set [])
      | _ =>
          let value ←
            match ← leaf number with
            | .moment value => pure (Data.marked ⟨reading, number⟩ (.moment value))
            | .float value =>
                if value.isNaN && value != writtenNaN then
                  pure (.float (Binary64.nanWith (reading * 0x1000000 + number + 2)))
                else pure (.float value)
            | other => pure other
          setLayer number (.leaf value)

/-- The entries of a mapping. -/
def entries (number : Nat) : Building (List (Nat × Nat)) := do
  match ← node number with
  | .mapping _ entries => return entries
  | _ => return []

/-- Replaces the entries of a mapping. -/
def setEntries (number : Nat) (entries : List (Nat × Nat)) : Building Unit := do
  setNode number (.mapping (← node number).tag entries)

mutual

/-- Merges the mappings that a mapping names into it, from the entry at a position on, given the entries
that were found before. A default mark becomes a text on the way. -/
def merge (number position : Nat) (found : List (Nat × Nat)) : (fuel : Nat) → Building Unit
  | 0 => throw (.fault .tooDeep)
  | fuel + 1 => do
      let present ← entries number
      match present[position]? with
      | none => if !found.isEmpty then setEntries number (found ++ present)
      | some (key, value) =>
          match (← node key).tag with
          | .merge =>
              setEntries number (present.eraseIdx position)
              let more ← mergedEntries value fuel
              merge number position (found ++ more) fuel
          | .default =>
              setNode key ((← node key).withTag .text)
              merge number (position + 1) found fuel
          | _ => merge number (position + 1) found fuel
termination_by structural fuel => fuel

/-- The entries of a mapping, or of several ones of which the last comes first. -/
def mergedEntries (number : Nat) : (fuel : Nat) → Building (List (Nat × Nat))
  | 0 => throw (.fault .tooDeep)
  | fuel + 1 => do
      match ← node number with
      | .scalar .. => throw .notYaml
      | .sequence _ items => mergedItems items [] fuel
      | .mapping .. =>
          merge number 0 [] fuel
          entries number
termination_by structural fuel => fuel

/-- The entries of some mappings, the last one first, before given ones. -/
def mergedItems (items : List Nat) (found : List (Nat × Nat)) :
    (fuel : Nat) → Building (List (Nat × Nat))
  | 0 => throw (.fault .tooDeep)
  | fuel + 1 => do
      match items with
      | [] => return found
      | item :: rest =>
          match ← node item with
          | .mapping .. =>
              merge item 0 [] fuel
              let more ← entries item
              mergedItems rest (more ++ found) fuel
          | _ => throw .notYaml
termination_by structural fuel => fuel

end

/-- The value of a node that has no parts; a collection has none. -/
def keyOf (number : Nat) : Building Data := do
  match ((← get).layers.getD number none) with
  | some (.leaf value) => return value
  | _ => throw .notYaml

/-- The table of the entries of a mapping, after merging. -/
def table (reading number : Nat) : Building (Table Nat) := do
  match ← node number with
  | .mapping .. => do
      merge number 0 [] (1000 * ((← get).nodes.size + 1))
      (← entries number).foldlM (fun table (key, value) => do
        reach reading key
        let name ← keyOf key
        reach reading value
        return Table.insert table name value) []
  | _ => throw .notYaml

/-- The pair that a mapping of one entry stands for. -/
def pair (reading number : Nat) : Building Nat := do
  match ← node number with
  | .mapping _ [(key, value)] => do
      reach reading key
      reach reading value
      addPair key value
  | _ => throw .notYaml

/-- Gives a collection its parts. -/
def fill (reading number : Nat) : Building Unit := do
  let found ← node number
  match found.tag, found with
  | .sequence, .sequence _ items =>
      items.forM (reach reading)
      setLayer number (.list items)
  | .ordered, .sequence _ items => setLayer number (.list (← items.mapM (pair reading)))
  | .pairs, .sequence _ items => setLayer number (.list (← items.mapM (pair reading)))
  | .mapping, _ => setLayer number (.map (← table reading number))
  | .set, _ => setLayer number (.set (Data.setOrder ((← table reading number).map Prod.fst)))
  | _, _ => throw .notYaml

/-- Gives all collections their parts, in the order in which they were noted. -/
def fillAll (reading : Nat) : (fuel : Nat) → Building Unit
  | 0 => pure ()
  | fuel + 1 => do
      let noted := (← get).noted
      if noted.isEmpty then return ()
      modify fun state => { state with noted := [] }
      noted.reverse.forM (fill reading)
      fillAll reading fuel

end Building

/-- The value of a document, given the number of its reading. -/
def Composition.value (reading : Nat) (composition : Composition) : Except Error Data := do
  let nodes := composition.nodes
  let building : Building Unit := do
    Building.reach reading composition.root
    Building.fillAll reading (nodes.size + 1)
  let (_, state) ← building.run ⟨nodes, Array.replicate nodes.size none, []⟩
  let store : Store Data := ⟨reading, state.layers.map fun layer => layer.getD default⟩
  return Data.ofPlace store composition.root

/-- The value of a YAML text, null if it holds no document, given the number of its reading and with room for a number
of collections inside one another. -/
def readWithin (room reading : Nat) (text : String) : Except Error Data := do
  match ← Composition.ofText room text.toList with
  | some composition => composition.value reading
  | none => return .null

/-- The greatest number of collections inside one another. -/
def mostLevels : Nat := roomWithin 22 2

/-- The value of a YAML text, given the number of its reading. -/
def read (reading : Nat) (text : String) : Except Error Data := readWithin mostLevels reading text

end Yaml

end SpecGraph
