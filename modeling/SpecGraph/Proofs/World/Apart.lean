import SpecGraph.Proofs.Manifest.Local
import SpecGraph.Proofs.World.Failure
import SpecGraph.Proofs.World.Together

/-!
# Builders in folders apart from each other

What finalizing a builder that writes manifests does to the file tree is local to its three folders. So two builders
whose folders are apart can be finalized in either order: each comes to the same end, and the file tree is the same.
-/

namespace SpecGraph

open Files

/-- Calls up to one that fails are local to some folders if each of them is. -/
theorem StageCall.isLocal_runAll {folders : List Location} {calls : List StageCall}
    (areLocal : ∀ call ∈ calls, IsLocal folders call.action) :
    IsLocal folders fun files => ((runAll calls files).1, (runAll calls files).2.2) := by
  induction calls with
  | nil => exact .constant (.ok ())
  | cons call rest ih =>
      rw [List.forall_mem_cons] at areLocal
      intro left right leftTree rightTree alike
      have ended := areLocal.1 left right leftTree rightTree alike
      have alikeThen := ended.alike alike
      simp only [runAll]
      rcases ranLeft : call.action left with ⟨leftOutcome, leftAfter⟩
      rcases ranRight : call.action right with ⟨rightOutcome, rightAfter⟩
      rw [ranLeft, ranRight] at ended alikeThen
      obtain rfl : leftOutcome = rightOutcome := ended.outcome
      cases leftOutcome with
      | ok => exact ended.trans (ih areLocal.2 leftAfter rightAfter ended.leftTree ended.rightTree alikeThen)
      | error cause => exact { ended with outcome := rfl }

namespace Builder

/-- The folders that a builder writes its manifests into. -/
def rootPaths (builder : Builder) : List Path := [builder.schemaRoot, builder.storageRoot, builder.dispatchRoot]

/-- A builder that is open and writes manifests into folders with straight paths. -/
structure WritesManifests (builder : Builder) : Prop where
  /-- It is open. -/
  isOpen : builder.frozen = false
  /-- Its pipelines write manifests. -/
  pipelines : ∃ allowBreaking, builder.pipelines = Pipelines.manifests allowBreaking
  /-- The paths of its folders are straight. -/
  straight : ∀ root ∈ builder.rootPaths, root.IsStraight

/-- The stages of a builder are local to its folders. -/
theorem WritesManifests.isLocal_runAll {builder : Builder} (writes : builder.WritesManifests) (number : Nat) :
    IsLocal (builder.rootPaths.map Path.place) fun files =>
      ((StageCall.runAll (builder.calls number) files).1, (StageCall.runAll (builder.calls number) files).2.2) := by
  rcases writes.pipelines with ⟨allowBreaking, isManifests⟩
  refine StageCall.isLocal_runAll fun call callMem => ?_
  have ofStage (stage : Stage) : IsLocal (builder.rootPaths.map Path.place) (builder.call number stage).action := by
    have amongRoots : ∀ root ∈ (builder.request stage).rootPaths, root ∈ builder.rootPaths := by
      cases stage <;> simp [request, StageRequest.rootPaths, rootPaths]
    rw [funext (action_call isManifests number stage)]
    exact StageRequest.isLocal_action (fun root rootMem => writes.straight root (amongRoots root rootMem))
      (fun root rootMem => List.mem_map_of_mem (amongRoots root rootMem)) allowBreaking
  rw [calls] at callMem
  simp only [List.mem_cons, List.not_mem_nil, or_false] at callMem
  rcases callMem with rfl | rfl | rfl
  · exact ofStage .schema
  · exact ofStage .storage
  · exact ofStage .dispatch

end Builder

namespace Run

open Effect

variable {world : World} {number : Nat} {builder : Builder}

/-- Finalizing an open builder ends as its stages do. -/
theorem finalize_eq_runAll (found : world.builders[number]? = some builder) (isOpen : builder.frozen = false) :
    (perform (finalize number) world).1 = (StageCall.runAll (builder.calls number) world.workspace.files).1 ∧
      (perform (finalize number) world).2.workspace.files =
        (StageCall.runAll (builder.calls number) world.workspace.files).2.2 := by
  rcases perform_finalize_of_open found isOpen with ⟨log, finalized⟩
  rw [finalized]
  exact ⟨rfl, rfl⟩

/-- Two open builders that write manifests into folders apart from each other can be finalized in either order. Each
comes to the same end as without the other, and the same is at every place of the file tree. -/
theorem finalize_commutes {first second : Nat} {one other : Builder} (isTree : world.workspace.files.IsTree)
    (firstFound : world.builders[first]? = some one) (secondFound : world.builders[second]? = some other)
    (oneWrites : one.WritesManifests) (otherWrites : other.WritesManifests)
    (apart : AreApart (one.rootPaths.map Path.place) (other.rootPaths.map Path.place)) :
    let afterFirst := (perform (finalize first) world).2
    let afterSecond := (perform (finalize second) world).2
    (perform (finalize second) afterFirst).1 = (perform (finalize second) world).1 ∧
      (perform (finalize first) afterSecond).1 = (perform (finalize first) world).1 ∧
      ∀ place, (perform (finalize second) afterFirst).2.workspace.files.nodeAt? place =
        (perform (finalize first) afterSecond).2.workspace.files.nodeAt? place := by
  intro afterFirst afterSecond
  -- a folder is not apart from itself, so these are two builders, and neither is changed by finalizing the other
  have distinct : first ≠ second := by
    rintro rfl
    obtain rfl : one = other := Option.some.inj (firstFound.symm.trans secondFound)
    exact (apart _ List.mem_cons_self _ List.mem_cons_self).1 (List.prefix_refl _)
  have secondFoundThen : afterFirst.builders[second]? = some other := by
    rw [builder_finalize_of_ne distinct, secondFound]
  have firstFoundThen : afterSecond.builders[first]? = some one := by
    rw [builder_finalize_of_ne distinct.symm, firstFound]
  have firstEnds := finalize_eq_runAll firstFound oneWrites.isOpen
  have secondEnds := finalize_eq_runAll secondFound otherWrites.isOpen
  have firstEndsThen := finalize_eq_runAll firstFoundThen oneWrites.isOpen
  have secondEndsThen := finalize_eq_runAll secondFoundThen otherWrites.isOpen
  have commute := (oneWrites.isLocal_runAll first).commute (otherWrites.isLocal_runAll second) apart isTree
  rw [firstEnds.2] at secondEndsThen
  rw [secondEnds.2] at firstEndsThen
  rw [secondEndsThen.1, secondEndsThen.2, firstEndsThen.1, firstEndsThen.2, firstEnds.1, secondEnds.1]
  exact commute

/-- A builder without declarations. -/
def idleNeighbour : Builder := Builder.create ⟨"", ["a", "b"]⟩ Settings.default none

/-- A builder with a field that holds a schema that is not declared. -/
def unresolvedNeighbour (name : String) : Builder :=
  { Builder.create ⟨"", ["a", name]⟩ Settings.default none with
    graph := ⟨[{ Namespace.empty "default" with
      schemas := [⟨"s", .bool false, [⟨.text "f", "@default/missing", true⟩], false⟩] }]⟩ }

/-- A world with two builders in one folder, which is not there. -/
def neighbours (name : String) : World :=
  { World.start Files.empty with builders := [idleNeighbour, unresolvedNeighbour name] }

theorem finalize_commutes_neighbours :
    let world := neighbours "c"
    let afterFirst := (perform (finalize 0) world).2
    let afterSecond := (perform (finalize 1) world).2
    (perform (finalize 1) afterFirst).1 = (perform (finalize 1) world).1 ∧
      (perform (finalize 0) afterSecond).1 = (perform (finalize 0) world).1 ∧
      ∀ place, (perform (finalize 1) afterFirst).2.workspace.files.nodeAt? place =
        (perform (finalize 0) afterSecond).2.workspace.files.nodeAt? place := by
  have straight : ∀ root ∈ (neighbours "c").builders.flatMap Builder.rootPaths, root.IsStraight := by
    have anchors : ∀ root ∈ (neighbours "c").builders.flatMap Builder.rootPaths, root.anchor ∈ ["", "/", "//"] := by
      decide +kernel
    have parts : ∀ root ∈ (neighbours "c").builders.flatMap Builder.rootPaths, ∀ part ∈ root.parts,
        Text.ofCodes (Text.codes part.toList) = part.toList ∧ Text.byteSize part ≤ Path.mostPartBytes ∧
          ".." ≠ part := by
      decide +kernel
    exact fun root rootMem => {
      anchor := anchors root rootMem
      coded := fun part partMem => (parts root rootMem part partMem).1
      short := fun part partMem => (parts root rootMem part partMem).2.1
      down := fun above => (parts root rootMem _ above).2.2 rfl }
  refine finalize_commutes Files.isTree_empty rfl rfl ⟨rfl, ⟨false, rfl⟩, fun root rootMem => straight root ?_⟩
    ⟨rfl, ⟨false, rfl⟩, fun root rootMem => straight root ?_⟩ ?_
  · exact List.mem_flatMap.mpr ⟨_, List.mem_cons_self, rootMem⟩
  · exact List.mem_flatMap.mpr ⟨_, List.mem_cons_of_mem _ List.mem_cons_self, rootMem⟩
  · unfold AreApart
    decide +kernel

/-- A build fails with what its first stage has no plan for. -/
theorem finalize_of_plan_error {allowBreaking : Bool} {cause : Error}
    (found : world.builders[number]? = some builder) (isOpen : builder.frozen = false)
    (manifests : builder.pipelines = Pipelines.manifests allowBreaking)
    (planned : (builder.request .schema).plan allowBreaking world.workspace.files = .error cause)
    (goesOn : cause.endsProcess = false) :
    (perform (finalize number) world).1 = .error (.compilation .schema builder.schemaRoot.text cause) := by
  have acted : (builder.call number .schema).action world.workspace.files = (.error cause, world.workspace.files) := by
    rw [Builder.action_call manifests, StageRequest.action_writeManifest, planned]
    rfl
  rw [(finalize_eq_runAll found isOpen).1, Builder.calls, StageCall.runAll, acted]
  dsimp only
  rw [StageCall.failure_of_not_endsProcess goesOn]
  rfl

section LongNames

/-- The path of the manifest of schemas of the second neighbour. -/
def neighbourFile (name : String) : Path := ⟨"", ["a", name, "schema", Manifest.schemaFile]⟩

theorem toList_text_neighbourFile (name : String) :
    (neighbourFile name).text.toList = "a/".toList ++ (name.toList ++ "/schema/schema.json".toList) := by
  rw [Path.text, if_neg (by simp [neighbourFile])]
  simp [neighbourFile, Manifest.schemaFile]

/-- A name with one character too many. -/
def longName : String := String.ofList (List.replicate 256 'x')

theorem toList_longName : longName.toList = List.replicate 256 'x' := String.toList_ofList

theorem byteSize_longName : Text.byteSize longName = 256 := by
  rw [Text.byteSize, toList_longName]
  decide +kernel

theorem byteSize_neighbourFile_longName : Text.byteSize (neighbourFile longName).text = 277 := by
  rw [Text.byteSize, toList_text_neighbourFile, toList_longName]
  decide +kernel

theorem isPossible_neighbourFile_longName : (neighbourFile longName).isPossible = true := by
  simp only [neighbourFile, Path.isPossible, Path.isWritable, Path.hasNul, List.all_cons, List.any_cons, List.all_nil,
    List.any_nil, Text.canNameFile, toList_longName]
  decide +kernel

/-- Where the folder around it is not there, a name that is too long is not come to. -/
theorem loaded_neighbourFile_empty : Manifest.loaded Files.empty (neighbourFile longName) = .ok none := by
  have short : Files.empty.isTooLong (neighbourFile longName) = false := by
    rw [isTooLong, byteSize_neighbourFile_longName]
    rfl
  rw [Manifest.loaded, short, Bool.and_false, if_neg Bool.false_ne_true]
  rfl

theorem loaded_neighbourFile {tree : Files} (home : tree.nodeAt? Files.home = some .folder)
    (there : tree.nodeAt? (Files.home ++ ["a"]) = some .folder) :
    Manifest.loaded tree (neighbourFile longName) = .error .file := by
  have long : tree.isTooLong (neighbourFile longName) = true := by
    have isLong : Path.mostPartBytes < Text.byteSize longName := by
      rw [byteSize_longName]
      decide
    have blocked : tree.isBlockedByLength Files.home ["a", longName, "schema", Manifest.schemaFile] = true := by
      rw [isBlockedByLength, if_pos home, if_neg (by decide), isBlockedByLength, if_pos there, decide_eq_true isLong,
        Bool.true_or, Bool.or_true]
    rw [isTooLong, Bool.or_eq_true]
    exact Or.inr blocked
  rw [Manifest.loaded, long, isPossible_neighbourFile_longName]
  rfl

theorem plan_unresolvedNeighbour (name : String) (files : Files) :
    ((unresolvedNeighbour name).request .schema).plan false files =
      Manifest.loaded files (neighbourFile name) >>=
        Manifest.planSchemas false (unresolvedNeighbour name).graph.schemaSpecs.entries := by
  have isFile : (unresolvedNeighbour name).schemaRoot.child Manifest.schemaFile = neighbourFile name := by
    with_unfolding_all rfl
  rw [← isFile]
  rfl

theorem planSchemas_unresolvedNeighbour (name : String) :
    Manifest.planSchemas false (unresolvedNeighbour name).graph.schemaSpecs.entries none =
      .error (.reference (.field (.text "f") "@default/s" (.text "@default/missing"))) := by
  with_unfolding_all rfl

/-- That a name is too long is only found once the folder around it is there, and the other builder makes that one. -/
theorem finalize_longName :
    let world := neighbours longName
    ((∀ root ∈ world.builders.flatMap Builder.rootPaths, ".." ∉ root.parts) ∧
      AreApart (idleNeighbour.rootPaths.map Path.place) ((unresolvedNeighbour longName).rootPaths.map Path.place)) ∧
    (∃ target fault, (perform (finalize 1) world).1 = .error (.compilation .schema target (.reference fault))) ∧
      ∃ target, (perform (finalize 1) (perform (finalize 0) world).2).1 =
        .error (.compilation .schema target .file) := by
  intro world
  have down : ∀ root ∈ world.builders.flatMap Builder.rootPaths, ".." ∉ root.parts := by decide +kernel
  have apart : AreApart (idleNeighbour.rootPaths.map Path.place)
      ((unresolvedNeighbour longName).rootPaths.map Path.place) := by
    unfold AreApart
    decide +kernel
  have found : world.builders[1]? = some (unresolvedNeighbour longName) := rfl
  have foundThen : (perform (finalize 0) world).2.builders[1]? = some (unresolvedNeighbour longName) := by
    rw [builder_finalize_of_ne Nat.zero_ne_one, found]
  have pipelines : (unresolvedNeighbour longName).pipelines = Pipelines.manifests false := rfl
  have idle : world.builders[0]? = some idleNeighbour := rfl
  have start : world.workspace.files = Files.empty := rfl
  have files := (finalize_eq_runAll idle rfl).2
  rw [start] at files
  -- the other builder leaves the folder of both behind
  have made : ∀ place ∈ [Files.home, Files.home ++ ["a"]],
      (StageCall.runAll (idleNeighbour.calls 0) Files.empty).2.2.nodeAt? place = some .folder := by decide +kernel
  have planned : ((unresolvedNeighbour longName).request .schema).plan false world.workspace.files =
      .error (.reference (.field (.text "f") "@default/s" (.text "@default/missing"))) := by
    rw [start, plan_unresolvedNeighbour, loaded_neighbourFile_empty]
    exact planSchemas_unresolvedNeighbour longName
  have plannedThen : ((unresolvedNeighbour longName).request .schema).plan false
      (perform (finalize 0) world).2.workspace.files = .error .file := by
    rw [files, plan_unresolvedNeighbour, loaded_neighbourFile (made _ List.mem_cons_self)
      (made _ (List.mem_cons_of_mem _ List.mem_cons_self))]
    rfl
  exact ⟨⟨down, apart⟩, ⟨_, _, finalize_of_plan_error found rfl pipelines planned rfl⟩,
    _, finalize_of_plan_error foundThen rfl pipelines plannedThen rfl⟩

end LongNames

end Run

end SpecGraph
