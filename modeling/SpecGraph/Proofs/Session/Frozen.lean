import Mathlib.Data.List.Chain
import SpecGraph.Proofs.Session.Moments
import SpecGraph.Proofs.World.Frozen

/-!
# Frozen builders in a session

A builder may be frozen at a moment inside the body of one of its own declarations. From the first moment at which it
is frozen, a builder stays as it is but for the flags of its schemas, and these are set only by the operations on flags
that look at no builder.
-/

namespace SpecGraph

namespace Run

open Effect

variable {γ : Type} {view : Nat → Graph → γ}

theorem continuing_silent {operation : Run Unit} (continuing : Continuing view operation) :
    Continuing view (Command.silent operation) :=
  continuing_bind continuing fun _ => continuing_of_still (still_pure _)

theorem continuing_createFrom (spec : BuilderSpec) : Continuing view (createFrom spec) :=
  continuing_bind (continuing_of_still still_get) fun _ =>
    continuing_bind (continuing_of_still (still_ofExcept _)) fun _ => continuing_createBuilder _ _ _

theorem continuing_takeCalls : Continuing view takeCalls := fun _ => World.continues_of_builders rfl

theorem continuing_nextReading : Continuing view nextReading := fun _ => World.continues_of_builders rfl

theorem continuing_document (source : DocumentSource) : Continuing view (document source) := by
  cases source with
  | yaml text =>
      exact continuing_bind continuing_nextReading fun _ => continuing_of_still (still_ofExcept _)
  | json text => exact continuing_of_still (still_ofExcept _)
  | data value => exact continuing_of_still (still_ofExcept _)

/-- A command other than the one that makes a field optional leaves the frozen builders. -/
theorem continuing_command {command : Command} (other : ∀ schema field, command ≠ .optional schema field) :
    Continuing view command.run := by
  have numbered {α : Type} {index : BuilderIndex} {next : Nat → Run α}
      (rest : ∀ number, Continuing view (next number)) : Continuing view (numberOf index >>= next) :=
    continuing_bind (continuing_of_still (still_numberOf index)) rest
  have told {α : Type} {index : BuilderIndex} {next : Builder → Run α}
      (rest : ∀ builder, Continuing view (next builder)) :
      Continuing view (do let builder ← Run.builder (← numberOf index); next builder) :=
    numbered fun number => continuing_bind (continuing_of_still (still_builder number)) rest
  have placed {α : Type} {space : SpaceAddress} {next : SpaceRef → Run α}
      (rest : ∀ ref, Continuing view (next ref)) : Continuing view (findSpace space >>= next) :=
    continuing_bind (continuing_of_still (still_findSpace space)) rest
  cases command with
  | create spec =>
      exact continuing_bind (continuing_createFrom spec) fun _ => continuing_of_still (still_rootsData _)
  | dispatchTo index name target =>
      exact numbered fun _ => continuing_bind (continuing_declareDispatch _ _ _) fun _ =>
        continuing_of_still (still_dispatchData _ _)
  | dispatchOf index name schema =>
      exact numbered fun _ => continuing_bind (continuing_of_still (still_findSchema schema)) fun _ =>
        continuing_bind (continuing_openDispatch _ _) fun _ => continuing_bind (continuing_addDispatch _ _) fun _ =>
          continuing_of_still (still_dispatchData _ _)
  | apply index source =>
      exact continuing_silent (numbered fun number => continuing_bind (continuing_document source) fun document =>
        Document.continuing_apply number document)
  | resolve index name =>
      exact numbered fun _ => continuing_bind (continuing_resolve _ _) fun _ => continuing_of_still (still_pure _)
  | openSpace index name =>
      exact numbered fun _ => continuing_bind (continuing_ensureSpace _ _) fun _ =>
        continuing_of_still (still_pure _)
  | findSchema index name =>
      refine numbered fun _ => continuing_bind (continuing_of_still (still_schema? _ _)) fun found => ?_
      cases found with
      | none => exact continuing_of_still (still_pure _)
      | some ref => exact continuing_of_still (still_schemaData ref)
  | validate index =>
      exact told fun _ => continuing_of_still (still_bind (still_ofExcept _) fun _ => still_pure _)
  | toData index | describe index | specs index | entries index =>
      exact told fun _ => continuing_of_still (still_pure _)
  | toJson index indent =>
      exact told fun _ => continuing_of_still (still_bind (still_ofFault _) fun _ =>
        still_bind (still_ofFault _) fun _ => still_pure _)
  | toYaml index | fingerprint index | snapshot index _ =>
      exact told fun _ => continuing_of_still (still_bind (still_ofFault _) fun _ => still_pure _)
  | check index =>
      exact told fun _ => continuing_bind (continuing_ofJob _) fun _ => continuing_of_still (still_pure _)
  | finalize index => exact continuing_silent (numbered continuing_finalize)
  | finalizeAll => exact continuing_silent continuing_finalizeAll
  | reset => exact continuing_silent continuing_reset
  | takeCalls => exact continuing_bind continuing_takeCalls fun _ => continuing_of_still (still_pure _)
  | listFiles => exact continuing_of_still (still_bind still_get fun _ => still_pure _)
  | writeFile name text | deleteFile name => exact continuing_silent (continuing_ofJob _)
  | giveUp message => exact continuing_of_still (still_throw _)
  | looseSpace name => exact continuing_silent (continuing_modify fun _ => rfl)
  | spaceSchema space path compact =>
      exact placed fun _ => continuing_bind (continuing_addSchema _ _) fun _ =>
        continuing_of_still (still_schemaData _)
  | spaceCollection space path =>
      exact placed fun _ => continuing_bind (continuing_addKeyedSchema _ _) fun _ =>
        continuing_of_still (still_collectionData _)
  | spaceDispatch space path requestType =>
      exact placed fun _ => continuing_bind (continuing_addDispatch _ _) fun _ =>
        continuing_of_still (still_dispatchData _ _)
  | spaceAgain space kind path =>
      exact continuing_silent (placed fun ref => continuing_of_still (still_addOwnAgain ref kind path))
  | spaceFind space kind path => exact placed fun _ => continuing_of_still (still_findIn _ _ _)
  | spaceData space | spaceDescription space =>
      exact placed fun _ => continuing_of_still (still_bind (still_space _) fun _ => still_pure _)
  | optional schema field => exact absurd rfl (other schema field)
  | schemaDescription schema =>
      exact continuing_of_still (still_bind (still_findSchema schema) fun _ =>
        still_bind (still_schema _) fun _ => still_pure _)

end Run

namespace Session

open Effect Run

/-- What comes after an operation passes a test, unless the operation fails. -/
def passesAfter {α : Type} (operation : Run α) (world : World) (test : α → World → Bool) : Bool :=
  match Effect.perform operation world with
  | (.ok value, after) => test value after
  | (.error _, _) => true

/-- The operation of a word sets a flag that was there before. -/
def setsFlag (word : Data) (optional : Bool) : Bool :=
  word.text? == some "set_compact" || (optional && word.text? == some "get_field")

/-- A command sets no flag in the builder of a number while it is frozen. -/
def sparesInCommand (number : Nat) : Command → World → Bool
  | .optional schema _, world =>
      passesAfter (findSchema schema) world fun ref after => !after.holdsFrozen number ref.space
  | _, _ => true

mutual

/-- An action sets no flag in the builder of a number while it is frozen. -/
def sparesIn (number : Nat) (ref : SchemaRef) (around : List SchemaRef) : Action → World → Bool
  | .tagged _ tag optional, world => !(setsFlag tag optional && world.holdsFrozen number ref.space)
  | .inline name body _, world =>
      passesAfter (declareNested ref name) world fun nested => sparesInBody number nested (ref :: around) body
  | .compact _, world => !world.holdsFrozen number ref.space
  | .outward body, world =>
      match around with
      | outer :: rest => sparesInBody number outer rest body world
      | [] => true
  | .step step, world => sparesInStep number step world
  | _, _ => true

/-- No action of a body sets a flag in the builder of a number while it is frozen. -/
def sparesInBody (number : Nat) (ref : SchemaRef) (around : List SchemaRef) : List Action → World → Bool
  | [], _ => true
  | action :: rest, world =>
      sparesIn number ref around action world &&
        passesAfter (act ref around action) world fun _ => sparesInBody number ref around rest

/-- A step sets no flag in the builder of a number while it is frozen. -/
def sparesInStep (number : Nat) : Step → World → Bool
  | .command command, world => sparesInCommand number command world
  | .block spec steps, world => passesAfter (createFrom spec) world fun _ => sparesInBlock number steps
  | .schema index name compact body, world =>
      passesAfter (do declareSchema (← numberOf index) name compact) world fun ref => sparesInBody number ref [] body
  | .collection index name body, world =>
      passesAfter (do declareCollection (← numberOf index) name) world fun ref => sparesInBody number ref [] body
  | .dispatch index name body, world =>
      passesAfter (do openDispatch (← numberOf index) name) world fun (space, path) after =>
        passesAfter (addSchema space (Schema.empty path (.bool false) false)) after fun ref =>
          sparesInBody number ref [] body
  | .edit schema body, world => passesAfter (findSchema schema) world fun ref => sparesInBody number ref [] body

/-- No step of a block sets a flag in the builder of a number while it is frozen. -/
def sparesInBlock (number : Nat) : List Step → World → Bool
  | [], _ => true
  | step :: rest, world =>
      sparesInStep number step world && passesAfter (take step) world fun _ => sparesInBlock number rest

end

/-- A session sets no flag in the builder of a number while it is frozen. -/
def spares (number : Nat) : World → List Step → Bool
  | _, [] => true
  | world, step :: rest => sparesInStep number step world && spares number (perform world step).2 rest

section Actions

variable {γ : Type} {view : Nat → Graph → γ} {watched : Nat}

theorem relaxIf_isRelax (optional : Bool) (field : FieldRef) :
    relaxIf optional field = relax field ∨ Still (relaxIf optional field) := by
  cases optional
  · exact Or.inr (still_pure _)
  · exact Or.inl rfl

theorem addsField_addMember (ref : SchemaRef) (name member : Data) : AddsField view (addMember ref name member) := by
  unfold addMember
  cases member.text?.bind FieldTag.ofMember? with
  | none => exact addsField_throw _
  | some type => exact addsField_addField ref name _

theorem continuing_key (ref : SchemaRef) (names : Data) :
    Continuing view (do setKey ref (← keyNames ref names)) := by
  unfold keyNames
  rw [bind_assoc]
  refine continuing_bind (continuing_of_still (still_schema ref)) fun schema => ?_
  cases schema.keyed with
  | false => exact continuing_of_still (still_throw _)
  | true => exact continuing_bind (continuing_of_still (still_ofFault _)) fun _ => continuing_setKey ref _

section Flags

variable (others : ∀ other, other ≠ watched → IsBlind (view other))
include others

/-- A word adds a field, which may be made optional, or looks one up, sets the flag, or sets the key. -/
theorem continues_callWord {world : World} {ref : SchemaRef} {name : Data} {word : String} {optional : Bool}
    (quiet : setsFlag (.text word) optional = true →
      IsBlind (view watched) ∨ world.holdsFrozen watched ref.space = false) :
    world.Continues view (Effect.perform (callWord ref name word >>= relaxFoundIf optional) world).2 := by
  unfold callWord
  rw [bind_assoc]
  refine continues_bind_still (still_schema ref) fun schema _ => ?_
  cases FieldTag.ofTag? word with
  | some type =>
      dsimp only
      rw [bind_assoc]
      exact continuing_bind_relax (addsField_addField ref name _) (relaxIf_isRelax optional) world
  | none =>
      dsimp only
      split
      next isGet =>
        cases beq_iff_eq.mp isGet
        rw [pure_bind]
        cases optional with
        | false => exact continuing_of_still (by cases schema.position? name <;> exact still_pure _) world
        | true =>
            cases schema.position? name with
            | none => exact World.Continues.refl world
            | some position => exact continues_relax others (quiet rfl)
      · split
        next isSet =>
          cases beq_iff_eq.mp isSet
          rw [bind_assoc]
          refine good_bind (continues_setCompact others (quiet rfl) name) fun _ => ?_
          exact (continuing_of_still (by cases optional <;> exact fun _ => rfl)).keeps world
        · split
          · rw [bind_assoc]
            exact continuing_bind (continuing_setKey ref _) (fun _ => continuing_of_still (by
              cases optional <;> exact fun _ => rfl)) world
          · split
            · exact World.Continues.refl world
            · exact World.Continues.refl world

theorem continues_callTag {world : World} {ref : SchemaRef} {name tag : Data} {optional : Bool}
    (quiet : setsFlag tag optional = true →
      IsBlind (view watched) ∨ world.holdsFrozen watched ref.space = false) :
    world.Continues view (Effect.perform (callTag ref name tag >>= relaxFoundIf optional) world).2 := by
  cases tag with
  | text word => exact continues_callWord others quiet
  | _ => exact World.Continues.refl world

theorem continues_makeOptional {world : World} {schema : SchemaAddress} {field : Data}
    (quiet : IsBlind (view watched) ∨ sparesInCommand watched (.optional schema field) world = true) :
    world.Continues view (Effect.perform (makeOptional schema field) world).2 := by
  refine continues_bind_still (still_findSchema schema) fun ref found => ?_
  refine continues_bind_still (still_schema ref) fun declared _ => ?_
  cases declared.position? field with
  | none => exact World.Continues.refl world
  | some position =>
      have notFrozen : IsBlind (view watched) ∨ world.holdsFrozen watched ref.space = false := by
        refine quiet.imp_right fun isSpared => ?_
        rw [sparesInCommand, passesAfter, found, Bool.not_eq_true'] at isSpared
        exact isSpared
      exact good_bind (continues_relax others notFrozen) fun _ =>
        (continuing_of_still (still_bind (still_schema ref) fun _ => still_pure _)).keeps world

end Flags

end Actions

section Moments

variable {γ : Type} {view : Nat → Graph → γ} {watched : Nat}

/-- The frozen builders of a world stay in the moments after it, those of a moment in the later ones, and all in
the last world. -/
def Leads (view : Nat → Graph → γ) : World → List World → World → Prop
  | world, [], last => world.Continues view last
  | world, moment :: rest, last => world.Continues view moment ∧ Leads view moment rest last

theorem Leads.continues {world last : World} {moments : List World} (leads : Leads view world moments last) :
    world.Continues view last := by
  induction moments generalizing world with
  | nil => exact leads
  | cons moment rest ih => exact leads.1.trans (ih leads.2)

theorem Leads.append {world between last : World} {first second : List World}
    (head : Leads view world first between) (rest : Leads view between second last) :
    Leads view world (first ++ second) last := by
  induction first generalizing world with
  | nil =>
      cases second with
      | nil => exact World.Continues.trans head rest
      | cons moment others => exact ⟨World.Continues.trans head rest.1, rest.2⟩
  | cons moment others ih => exact ⟨head.1, ih head.2⟩

theorem Leads.keeps {α : Type} {world : World} {moments : List World} {operation : Run α}
    (continuing : Continuing view operation) : Keeps (Leads view world moments) operation := by
  intro last leads
  have further : Leads view last [] (Effect.perform operation last).2 := continuing last
  rw [← List.append_nil moments]
  exact leads.append further

/-- Every moment continues those before it. -/
theorem Leads.pairwise {world last : World} {moments : List World} (leads : Leads view world moments last) :
    (world :: moments).Pairwise (World.Continues view) := by
  induction moments generalizing world with
  | nil => exact List.pairwise_singleton _ _
  | cons moment rest ih =>
      have later := ih leads.2
      refine List.pairwise_cons.mpr ⟨fun other otherMem => ?_, later⟩
      rcases List.mem_cons.mp otherMem with rfl | otherMem
      · exact leads.1
      · exact leads.1.trans (List.rel_of_pairwise_cons later otherMem)

/-- An operation leads on through its moments if it passes a test or the watched builder is watched no closer
than the others. -/
def LeadsOn {α : Type} (view : Nat → Graph → γ) (watched : Nat) (test : World → Bool) (inner : World → List World)
    (operation : Run α) : Prop :=
  ∀ world, IsBlind (view watched) ∨ test world = true →
    Leads view world (inner world) (Effect.perform operation world).2

theorem leadsOn_of_continuing {α : Type} {operation : Run α} {test : World → Bool}
    (continuing : Continuing view operation) : LeadsOn view watched test (fun _ => []) operation :=
  fun world _ => continuing world

theorem LeadsOn.bind {α β : Type} {test : World → Bool} {inner : World → List World} {first : Run α}
    {next : α → Run β} (head : LeadsOn view watched test inner first)
    (rest : ∀ value, Continuing view (next value)) : LeadsOn view watched test inner (first >>= next) :=
  fun world quiet => good_bind (head world quiet) fun value => Leads.keeps (rest value)

theorem leadsOn_momentsAfter {α β : Type} {test : α → World → Bool} {inner : α → World → List World}
    {first : Run α} {next : α → Run β} (head : Continuing view first)
    (rest : ∀ value, LeadsOn view watched (test value) (inner value) (next value)) :
    LeadsOn view watched (fun world => passesAfter first world test) (fun world => momentsAfter first world inner)
      (first >>= next) := by
  intro world quiet
  have continues := head world
  dsimp only at quiet ⊢
  rw [perform_bind, momentsAfter]
  rw [passesAfter] at quiet
  rcases performed : Effect.perform first world with ⟨outcome, after⟩
  rw [performed] at continues quiet
  cases outcome with
  | ok value => exact ⟨continues, rest value after quiet⟩
  | error error => exact continues

/-- The moments of a chain are those of its first operation, and those after it. -/
theorem leadsOn_append {α β : Type} {testFirst : World → Bool} {test : α → World → Bool}
    {before : World → List World} {inner : α → World → List World} {first : Run α} {next : α → Run β}
    (head : LeadsOn view watched testFirst before first)
    (rest : ∀ value, LeadsOn view watched (test value) (inner value) (next value)) :
    LeadsOn view watched (fun world => testFirst world && passesAfter first world test)
      (fun world => before world ++ momentsAfter first world inner) (first >>= next) := by
  intro world quiet
  dsimp only at quiet ⊢
  rw [Bool.and_eq_true] at quiet
  have leads := head world (quiet.imp_right And.left)
  replace quiet := quiet.imp_right And.right
  rw [perform_bind, momentsAfter]
  rw [passesAfter] at quiet
  rcases performed : Effect.perform first world with ⟨outcome, after⟩
  rw [performed] at leads quiet
  cases outcome with
  | ok value => exact leads.append ⟨World.Continues.refl after, rest value after quiet⟩
  | error error =>
      rw [List.append_nil]
      exact leads

theorem LeadsOn.closeBlock {test : World → Bool} {inner : World → List World} {declarations : Run Unit}
    (declares : LeadsOn view watched test inner declarations) (number : Nat) :
    LeadsOn view watched test inner (Run.closeBlock number declarations) := by
  refine LeadsOn.bind (fun world quiet => good_tryCatch (declares world quiet) fun _ => Leads.keeps ?_) fun _ =>
    continuing_finalize number
  exact continuing_bind (continuing_abandon number) fun _ => continuing_of_still (still_throw _)

section Bodies

variable (others : ∀ other, other ≠ watched → IsBlind (view other))
include others

set_option linter.unusedSectionVars false in
mutual

/-- The frozen builders stay through the moments inside an action. -/
theorem leadsOn_act (ref : SchemaRef) (around : List SchemaRef) : ∀ action : Action,
    LeadsOn view watched (sparesIn watched ref around action) (momentsIn ref around action) (act ref around action)
  | .field name type optional =>
      leadsOn_of_continuing (continuing_bind_relax (addsField_addPrimitive ref name type) (relaxIf_isRelax optional))
  | .member name member optional =>
      leadsOn_of_continuing (continuing_bind_relax (addsField_addMember ref name member) (relaxIf_isRelax optional))
  | .tagged name tag optional => by
      intro world quiet
      refine continues_callTag others fun isFlag => quiet.imp_right fun isSpared => ?_
      rw [sparesIn, isFlag, Bool.true_and, Bool.not_eq_true'] at isSpared
      exact isSpared
  | .reference name target optional =>
      leadsOn_of_continuing
        (continuing_bind_relax (addsField_addReference ref name target) (relaxIf_isRelax optional))
  | .schema name schema optional =>
      leadsOn_of_continuing (continuing_bind (continuing_of_still (still_findSchema schema)) fun _ =>
        continuing_bind_relax (addsField_addField ref name _) (relaxIf_isRelax optional))
  | .inline name body optional =>
      leadsOn_momentsAfter (continuing_declareNested ref name) fun nested =>
        (leadsOn_actAll nested (ref :: around) body).bind fun _ =>
          continuing_bind_relax (addsField_addField ref name _) (relaxIf_isRelax optional)
  | .key names => leadsOn_of_continuing (continuing_key ref names)
  | .compact value => fun world quiet => by
      refine continues_setCompact others (quiet.imp_right fun isSpared => ?_) value
      rw [sparesIn, Bool.not_eq_true'] at isSpared
      exact isSpared
  | .giveUp message => leadsOn_of_continuing (continuing_of_still (still_throw _))
  | .outward body => by
      cases around with
      | nil => exact leadsOn_of_continuing (continuing_of_still (still_throw _))
      | cons outer rest => exact leadsOn_actAll outer rest body
  | .step step => by
      rw [act, discard_eq]
      exact (leadsOn_take step).bind fun _ => continuing_of_still (still_pure _)

theorem leadsOn_actAll (ref : SchemaRef) (around : List SchemaRef) : ∀ actions : List Action,
    LeadsOn view watched (sparesInBody watched ref around actions) (momentsInBody ref around actions)
      (actAll ref around actions)
  | [] => leadsOn_of_continuing (continuing_of_still (still_pure _))
  | action :: rest =>
      leadsOn_append (leadsOn_act ref around action) fun _ => leadsOn_actAll ref around rest

theorem leadsOn_take : ∀ step : Step,
    LeadsOn view watched (sparesInStep watched step) (momentsInStep step) (take step)
  | .command command => by
      by_cases isOptional : ∃ schema field, command = .optional schema field
      · rcases isOptional with ⟨schema, field, rfl⟩
        exact fun world quiet => continues_makeOptional others quiet
      · exact leadsOn_of_continuing (continuing_command fun schema field same => isOptional ⟨schema, field, same⟩)
  | .block spec steps =>
      leadsOn_momentsAfter (continuing_createFrom spec) fun number =>
        ((leadsOn_takeAll steps).closeBlock number).bind fun _ => continuing_of_still (still_pure _)
  | .schema index name compact body => by
      unfold take
      rw [← bind_assoc]
      refine leadsOn_momentsAfter ?_ fun ref => (leadsOn_actAll ref [] body).bind fun _ =>
        continuing_of_still (still_schemaData ref)
      exact continuing_bind (continuing_of_still (still_numberOf index)) fun _ => continuing_declareSchema _ _ _
  | .collection index name body => by
      unfold take
      rw [← bind_assoc]
      refine leadsOn_momentsAfter ?_ fun ref => (leadsOn_actAll ref [] body).bind fun _ => ?_
      · exact continuing_bind (continuing_of_still (still_numberOf index)) fun _ => continuing_declareCollection _ _
      · exact continuing_of_still (still_bind (still_collectionData ref) fun _ =>
          still_bind (still_schemaData ref) fun _ => still_pure _)
  | .dispatch index name body => by
      unfold take
      rw [← bind_assoc]
      refine leadsOn_momentsAfter ?_ fun opened => ?_
      · exact continuing_bind (continuing_of_still (still_numberOf index)) fun _ => continuing_openDispatch _ _
      · refine leadsOn_momentsAfter (continuing_addSchema _ _) fun ref =>
          (leadsOn_actAll ref [] body).bind fun _ => ?_
        exact continuing_bind (continuing_addDispatch _ _) fun _ => continuing_of_still (still_dispatchData _ _)
  | .edit schema body =>
      leadsOn_momentsAfter (continuing_of_still (still_findSchema schema)) fun ref =>
        (leadsOn_actAll ref [] body).bind fun _ => continuing_of_still (still_schemaData ref)

theorem leadsOn_takeAll : ∀ steps : List Step,
    LeadsOn view watched (sparesInBlock watched steps) (momentsInBlock steps) (takeAll steps)
  | [] => leadsOn_of_continuing (continuing_of_still (still_pure _))
  | step :: rest => leadsOn_append (leadsOn_take step) fun _ => leadsOn_takeAll rest

end

/-- The frozen builders stay through the moments of a session. -/
theorem exists_leads {steps : List Step} {world : World}
    (quiet : IsBlind (view watched) ∨ spares watched world steps = true) :
    ∃ last, Leads view world (moments world steps) last := by
  induction steps generalizing world with
  | nil => exact ⟨world, World.Continues.refl world⟩
  | cons step rest ih =>
      have both := quiet.imp_right Bool.and_eq_true_iff.mp
      rcases ih (both.imp_right And.right) with ⟨last, leads⟩
      have first := leadsOn_take others step world (both.imp_right And.left)
      exact ⟨last, first.append ⟨World.Continues.refl _, leads⟩⟩

end Bodies

end Moments

/-- Finalizing freezes a builder whether or not it fails. From then on the builder stays as it is, but for the
flags of its schemas and of their fields; these stay too if no operation sets one while the builder is frozen. The
operations are on what the builder owns: a declaration of another owner is changed where it was made. -/
theorem frozen_kept (start : World) (steps : List Step) :
    (∀ (number : Nat) (builder : Builder), start.builders[number]? = some builder →
      (Effect.perform (Run.finalize number) start).2.builders[number]? = some { builder with frozen := true }) ∧
    (∀ count, after start (steps.take count) ∈ start :: moments start steps) ∧
    (start :: moments start steps).Pairwise fun first later => ∀ (number : Nat) (builder : Builder),
      first.builders[number]? = some builder → builder.frozen = true →
        (∃ graph, later.builders[number]? = some { builder with graph } ∧
          graph.outline = builder.graph.outline) ∧
        (spares number start steps = true → later.builders[number]? = some builder) := by
  refine ⟨fun number builder found => builder_finalize found, fun count => after_take_mem count steps start, ?_⟩
  have outlines : (start :: moments start steps).Pairwise (World.Continues fun _ => Graph.outline) := by
    have others (other : Nat) (_ : other ≠ 0) : IsBlind Graph.outline := isBlind_outline
    rcases exists_leads others (Or.inl isBlind_outline) with ⟨last, leads⟩
    exact leads.pairwise
  -- the graph of one builder is watched as a whole, and those of the others in outline
  have wholes (number : Nat) (spared : spares number start steps = true) : (start :: moments start steps).Pairwise
      (World.Continues fun other graph => if other = number then graph else graph.outline) := by
    have others (other : Nat) (isOther : other ≠ number) :
        IsBlind fun graph : Graph => if other = number then graph else graph.outline := by
      simp only [if_neg isOther]
      exact isBlind_outline
    rcases exists_leads others (Or.inr spared) with ⟨last, leads⟩
    exact leads.pairwise
  rw [List.pairwise_iff_getElem] at outlines ⊢
  intro i j isFirst isLater before number builder found frozen
  refine ⟨outlines i j isFirst isLater before number builder found frozen, fun spared => ?_⟩
  rcases List.pairwise_iff_getElem.mp (wholes number spared) i j isFirst isLater before number builder found frozen with
    ⟨graph, there, same⟩
  dsimp only at same
  rw [if_pos rfl, if_pos rfl] at same
  rw [there, same]

/-- Makes a builder whose stages take note of what they are asked. -/
def noting : Step := .command (.create ⟨.text "spec", [], [], some ⟨.record, .record, .record⟩⟩)

/-- A schema finalizes its builder in its own body, and then asks for another field. -/
def closing : List Step :=
  [noting, .schema (.int 0) (.text "a") (.bool false) [.field (.text "x") (.text "uint") false,
    .step (.command (.finalize (.int 0))), .field (.text "y") (.text "uint") false]]

theorem frozen_kept_closing :
    ∃ first later : World, ∃ builder : Builder, (moments (World.start ⟨[], []⟩) closing)[3]? = some first ∧
      first.builders[0]? = some builder ∧ builder.frozen = true ∧
      (moments (World.start ⟨[], []⟩) closing)[4]? = some later ∧ later.builders[0]? = some builder := by
  have there : ((moments (World.start ⟨[], []⟩) closing)[3]?.any fun first =>
      (moments (World.start ⟨[], []⟩) closing)[4]?.isSome && first.builders[0]?.any Builder.frozen) = true := by
    decide +kernel
  rcases (Option.any_eq_true _ _).mp there with ⟨first, isFirst, there⟩
  rw [Bool.and_eq_true] at there
  rcases Option.isSome_iff_exists.mp there.1 with ⟨later, isLater⟩
  rcases (Option.any_eq_true _ _).mp there.2 with ⟨builder, found, frozen⟩
  refine ⟨first, later, builder, isFirst, found, frozen, isLater, ?_⟩
  have pairs := (List.pairwise_cons.mp (frozen_kept (World.start ⟨[], []⟩) closing).2.2).2
  rcases List.getElem?_eq_some_iff.mp isFirst with ⟨firstLess, rfl⟩
  rcases List.getElem?_eq_some_iff.mp isLater with ⟨laterLess, rfl⟩
  have kept := List.pairwise_iff_getElem.mp pairs 3 4 firstLess laterLess (by decide) 0 builder found frozen
  exact kept.2 (by decide +kernel)

/-- A field is made optional after its builder was finalized. -/
def relaxing : List Step :=
  [noting, .schema (.int 0) (.text "a") (.bool false) [.field (.text "x") (.text "uint") false],
    .command (.finalize (.int 0)), .command (.optional (.ofBuilder (.int 0) (.text "a")) (.text "x"))]

/-- The plain data of a frozen builder change when a field is made optional. -/
theorem frozen_changed_relaxing :
    ∃ first later : Builder, (after (World.start ⟨[], []⟩) (relaxing.take 3)).builders[0]? = some first ∧
      first.frozen = true ∧ (after (World.start ⟨[], []⟩) relaxing).builders[0]? = some later ∧
      first.toData.same later.toData = false := by
  have changed : ((after (World.start ⟨[], []⟩) (relaxing.take 3)).builders[0]?.any fun first =>
      first.frozen && (after (World.start ⟨[], []⟩) relaxing).builders[0]?.any fun later =>
        !first.toData.same later.toData) = true := by decide +kernel
  rcases (Option.any_eq_true _ _).mp changed with ⟨first, isFirst, changed⟩
  rw [Bool.and_eq_true] at changed
  rcases (Option.any_eq_true _ _).mp changed.2 with ⟨later, isLater, differ⟩
  exact ⟨first, later, isFirst, changed.1, isLater, by rwa [Bool.not_eq_true'] at differ⟩

end Session

end SpecGraph
