import SpecGraph.World.Basic

/-!
# Finalizing

To finalize a builder is to freeze it and to call its three stages, each after the one before it has
returned. A stage that fails ends the build, and the builder stays frozen. All waiting builders can be
finalized together: the list is emptied first, and the failure of one does not stop the others. Only a
pipeline that ends the process stops everything: its error is not wrapped, and nothing goes on after it.
-/

namespace SpecGraph

namespace Run

/-- Calls a stage of a builder. A failure is told as that of the stage, but an error that ends the process
passes as it is. -/
def callStage (number : Nat) (builder : Builder) (stage : Stage) : Run Unit := do
  let request := builder.request stage
  let pipeline := builder.pipelines.ofStage stage
  record .info Logger.registry
    ("Running " ++ stage.name ++ " pipeline into " ++ request.target.text)
  modify fun world => { world with calls := world.calls ++ [⟨number, pipeline, request⟩] }
  tryCatch (ofJob (pipeline.run request)) fun cause => do
    if cause.endsProcess then throw cause
    record .error Logger.registry
      (stage.name ++ " pipeline failed for " ++ builder.specRoot.text ++ ": " ++ cause.message)
    throw (.compilation stage request.target.text cause)

/-- The line that tells what is about to be built. -/
def announcement (builder : Builder) : String :=
  let graph := builder.graph
  "Finalizing " ++ builder.specRoot.text ++ " with " ++ Text.natText graph.spaces.length ++
    " namespace(s), " ++ Text.natText (graph.count Namespace.schemas) ++ " schema(s), " ++
    Text.natText (graph.count Namespace.collections) ++ " collection(s), " ++
    Text.natText (graph.count Namespace.dispatches) ++ " dispatch(es)"

/-- Finalizes a builder. -/
def finalize (number : Nat) : Run Unit := do
  let builder ← builder number
  if builder.frozen then throw (.frozen .finalize builder.specRoot.text)
  modifyBuilder number fun builder => { builder with frozen := true }
  record .info Logger.registry (announcement builder)
  callStage number builder .schema
  callStage number builder .storage
  callStage number builder .dispatch

/-- Finalizes the builders of some numbers that are not frozen, and answers the failures. -/
def finalizeEach : List Nat → Run (List (String × Error))
  | [] => return []
  | number :: rest => do
      let builder ← builder number
      let failures ←
        if builder.frozen then pure []
        else
          tryCatch (do finalize number; pure []) fun error =>
            if error.isPackageError then pure [(builder.specRoot.text, error)] else throw error
      return failures ++ (← finalizeEach rest)

/-- Finalizes all waiting builders. -/
def finalizeAll : Run Unit := do
  let numbers := (← get).waiting
  modify fun world => { world with waiting := [] }
  let failures ← finalizeEach numbers
  if !failures.isEmpty then throw (.finalization failures)

/-- Forgets the waiting builders. -/
def reset : Run Unit := modify fun world => { world with waiting := [] }

/-- Makes a builder under a root, or under the root of the settings if it is not given. -/
def createBuilder (root : Data) (settings : Settings) (pipelines : Option Pipelines) : Run Nat := do
  let text ←
    if root.isTruthy then
      match root with
      | .text text => pure text
      | _ => throw (.fault .wrongKind)
    else pure settings.specRoot
  addBuilder (Builder.create (Path.parse text) settings pipelines)

/-- Drops a builder from the waiting ones. -/
def abandon (number : Nat) : Run Unit :=
  modify fun world => { world with waiting := world.waiting.erase number }

/-- Finalizes a builder after its declarations, or drops it if these fail. -/
def closeBlock (number : Nat) (declarations : Run Unit) : Run Unit := do
  tryCatch declarations fun error => do
    abandon number
    throw error
  finalize number

end Run

end SpecGraph
