import SpecGraph.Proofs.World.Kept

/-!
# Programs on builders

A program makes builders, declares in them, finalizes them and forgets them in any order. Blocks nest, an error may be
caught anywhere, and what is done next may depend on all that was answered before. What else a program may do is up to a
permission: to leave the builders but for their graphs, or to declare and to share what was declared. A program is
carried out by the operations on the world. It can also be followed from one point between its operations to the next,
together with the events of the builders, and this has the same outcome and leaves the same world.
-/

namespace SpecGraph

open Effect

/-- What happens to builders, besides being declared in and being finalized. -/
inductive Event where
  /-- A builder was made. -/
  | made (number : Nat)
  /-- The block of a builder was left by an error. -/
  | left (number : Nat)
  /-- All builders that were made so far were forgotten. -/
  | forgotten
  /-- A pipeline ended the process while all waiting builders were finalized. -/
  | ended
deriving DecidableEq

namespace Event

/-- What happens where a builder is to be made. -/
def ofMaking : Except Error Nat → List Event
  | .ok number => [made number]
  | .error _ => []

/-- What happens where all waiting builders are to be finalized. -/
def ofFinalizingAll : Except Error Unit → List Event
  | .ok () => []
  | .error error => if error.endsProcess then [ended] else []

end Event

namespace Run

/-- An operation is made of the simple ones, so it keeps all that they keep. -/
def Composed {α : Type} (operation : Run α) : Prop := ∀ good : World → Prop, World.Kept .any good → Keeps good operation

/-- An operation only declares, so it keeps all that registering keeps. -/
def Registers {α : Type} (operation : Run α) : Prop :=
  ∀ good : World → Prop, World.KeptByRegistering .any good → Keeps good operation

theorem Registers.composed {α : Type} {operation : Run α} (registers : operation.Registers) : operation.Composed :=
  fun good kept => registers good kept.toKeptByRegistering

/-- An operation declares, or it adds what was declared to a namespace once more. -/
inductive Shares : {α : Type} → Run α → Prop where
  | registers {α : Type} {operation : Run α} (registers : Registers operation) : Shares operation
  | again (ref : SpaceRef) (declaration : Declaration) : Shares (addAgain ref declaration)

end Run

namespace World

/-- A program that makes builders, finalizes them and forgets them, and does what is permitted between. -/
inductive Program (permits : ∀ α : Type, Run α → Prop) : Type → Type 1 where
  /-- Carries out an operation that is permitted. -/
  | other {α : Type} (operation : Run α) (permitted : permits α operation) : Program permits α
  /-- Makes a builder. -/
  | create (root : Data) (settings : Settings) (pipelines : Option Pipelines) : Program permits Nat
  /-- Makes a builder and carries out a body with it. Then the builder is finalized, or dropped if the body fails. -/
  | block (root : Data) (settings : Settings) (pipelines : Option Pipelines) (body : Nat → Program permits Unit) :
      Program permits Unit
  /-- Finalizes a builder. -/
  | finalize (number : Nat) : Program permits Unit
  /-- Finalizes all waiting builders. -/
  | finalizeAll : Program permits Unit
  /-- Forgets all builders. -/
  | reset : Program permits Unit
  /-- Goes on with what was answered. -/
  | next {α β : Type} (first : Program permits α) (rest : α → Program permits β) : Program permits β
  /-- Goes on with the error if the body fails. -/
  | attempt {α : Type} (body : Program permits α) (handler : Error → Program permits α) : Program permits α

end World

/-- A point between two operations of a program. -/
structure Point where
  /-- What happened to builders so far, the latest last. -/
  events : List Event
  world : World

/-- A way from one point to another one. -/
structure Trace (α : Type) where
  /-- The points between, in their order. -/
  points : List Point
  outcome : Except Error α
  last : Point

namespace Point

/-- A single operation, whose outcome tells what happens. -/
def carryOut {α : Type} (point : Point) (operation : Run α) (events : Except Error α → List Event) : Trace α :=
  let (outcome, world) := perform operation point.world
  ⟨[], outcome, ⟨point.events ++ events outcome, world⟩⟩

/-- A builder is made, if it has a root. -/
def make (root : Data) (settings : Settings) (pipelines : Option Pipelines) (point : Point) : Trace Nat :=
  point.carryOut (Run.createBuilder root settings pipelines) Event.ofMaking

/-- The block of a builder is left by an error. -/
def leave (number : Nat) (error : Error) (point : Point) : Trace Unit :=
  ⟨[], .error error, ⟨point.events ++ [.left number], (perform (Run.abandon number) point.world).2⟩⟩

end Point

namespace Trace

variable {α β : Type}

/-- The way goes on if there is no error. -/
def andThen (trace : Trace α) (rest : α → Point → Trace β) : Trace β :=
  match trace.outcome with
  | .ok value =>
      let later := rest value trace.last
      ⟨trace.points ++ trace.last :: later.points, later.outcome, later.last⟩
  | .error error => ⟨trace.points, .error error, trace.last⟩

/-- The way goes on if there is an error. -/
def orElse (trace : Trace α) (handler : Error → Point → Trace α) : Trace α :=
  match trace.outcome with
  | .ok _ => trace
  | .error error =>
      let later := handler error trace.last
      ⟨trace.points ++ trace.last :: later.points, later.outcome, later.last⟩

/-- The block of a builder ends after its body. -/
def close (number : Nat) (trace : Trace Unit) : Trace Unit :=
  (trace.orElse (Point.leave number)).andThen fun _ point => point.carryOut (Run.finalize number) fun _ => []

end Trace

namespace World.Program

variable {permits : ∀ α : Type, Run α → Prop} {α : Type}

/-- The operation that carries out a program. -/
def run {α : Type} : Program permits α → Run α
  | other operation _ => operation
  | create root settings pipelines => Run.createBuilder root settings pipelines
  | block root settings pipelines body => do
      let number ← Run.createBuilder root settings pipelines
      Run.closeBlock number (body number).run
  | finalize number => Run.finalize number
  | finalizeAll => Run.finalizeAll
  | reset => Run.reset
  | next first rest => do
      let value ← first.run
      (rest value).run
  | attempt body handler => tryCatch body.run fun error => (handler error).run

/-- The way of a program from a point. -/
def follow {α : Type} : Program permits α → Point → Trace α
  | other operation _, point => point.carryOut operation fun _ => []
  | create root settings pipelines, point => point.make root settings pipelines
  | block root settings pipelines body, point =>
      (point.make root settings pipelines).andThen fun number opened => ((body number).follow opened).close number
  | finalize number, point => point.carryOut (Run.finalize number) fun _ => []
  | finalizeAll, point => point.carryOut Run.finalizeAll Event.ofFinalizingAll
  | reset, point => point.carryOut Run.reset fun _ => [.forgotten]
  | next first rest, point => (first.follow point).andThen fun value => (rest value).follow
  | attempt body handler, point => (body.follow point).orElse fun error => (handler error).follow

/-- The way of a program through a world in which nothing was done yet. -/
def trace (program : Program permits α) (files : Files) : Trace α := program.follow ⟨[], World.start files⟩

/-- All points of a program, from its start to its end. -/
def points (program : Program permits α) (files : Files) : List Point :=
  ⟨[], World.start files⟩ :: (program.trace files).points ++ [(program.trace files).last]

end World.Program

namespace Trace

variable {α β : Type}

/-- A way is that of an operation: it has the same outcome and leaves the same world. -/
def IsOf (trace : Trace α) (operation : Run α) (world : World) : Prop :=
  perform operation world = (trace.outcome, trace.last.world)

theorem isOf_carryOut (point : Point) (operation : Run α) (events : Except Error α → List Event) :
    (point.carryOut operation events).IsOf operation point.world := rfl

theorem IsOf.andThen {trace : Trace α} {first : Run α} {world : World} {rest : α → Point → Trace β} {next : α → Run β}
    (head : trace.IsOf first world)
    (tail : ∀ value, (rest value trace.last).IsOf (next value) trace.last.world) :
    (trace.andThen rest).IsOf (first >>= next) world := by
  unfold IsOf at head ⊢
  rw [perform_bind, head]
  unfold Trace.andThen
  cases trace.outcome with
  | ok value => exact tail value
  | error error => rfl

theorem IsOf.orElse {trace : Trace α} {body : Run α} {world : World} {rest : Error → Point → Trace α}
    {handler : Error → Run α} (head : trace.IsOf body world)
    (tail : ∀ error, (rest error trace.last).IsOf (handler error) trace.last.world) :
    (trace.orElse rest).IsOf (tryCatch body handler) world := by
  unfold IsOf at head ⊢
  rw [perform_tryCatch, head]
  unfold Trace.orElse
  cases isOutcome : trace.outcome with
  | ok value => rw [isOutcome]
  | error error => exact tail error

theorem IsOf.close {trace : Trace Unit} {body : Run Unit} {world : World} (isOf : trace.IsOf body world)
    (number : Nat) : (trace.close number).IsOf (Run.closeBlock number body) world := by
  apply IsOf.andThen
  · apply isOf.orElse
    intro error
    rfl
  · intro _
    exact isOf_carryOut _ _ _

end Trace

/-- To follow a program is to carry it out. -/
theorem World.Program.isOf_follow {permits : ∀ α : Type, Run α → Prop} {α : Type}
    (program : World.Program permits α) (point : Point) : (program.follow point).IsOf program.run point.world := by
  induction program generalizing point with
  | next first rest ihFirst ihRest =>
      apply Trace.IsOf.andThen (ihFirst point)
      intro value
      exact ihRest value _
  | attempt body handler ihBody ihHandler =>
      apply Trace.IsOf.orElse (ihBody point)
      intro error
      exact ihHandler error _
  | block root settings pipelines body ih =>
      apply Trace.IsOf.andThen (Trace.isOf_carryOut point _ _)
      intro number
      exact (ih number _).close number
  | _ => exact Trace.isOf_carryOut point _ _

namespace Trace

variable {α β : Type} {good : Point → Prop}

/-- A property is true at all points of a way, and at its end. -/
def All (good : Point → Prop) (trace : Trace α) : Prop := (∀ point ∈ trace.points, good point) ∧ good trace.last

theorem All.mono {better : Point → Prop} {trace : Trace α} (all : trace.All better)
    (weaker : ∀ point, better point → good point) : trace.All good :=
  ⟨fun point pointMem => weaker point (all.1 point pointMem), weaker _ all.2⟩

theorem All.andThen {trace : Trace α} {rest : α → Point → Trace β} (head : trace.All good)
    (tail : ∀ value, trace.outcome = .ok value → (rest value trace.last).All good) : (trace.andThen rest).All good := by
  unfold Trace.andThen
  cases isOutcome : trace.outcome with
  | ok value =>
      have later := tail value isOutcome
      exact ⟨List.forall_mem_append.mpr ⟨head.1, List.forall_mem_cons.mpr ⟨head.2, later.1⟩⟩, later.2⟩
  | error error => exact head

theorem All.orElse {trace : Trace α} {handler : Error → Point → Trace α} (head : trace.All good)
    (tail : ∀ error, (handler error trace.last).All good) : (trace.orElse handler).All good := by
  unfold Trace.orElse
  cases trace.outcome with
  | ok value => exact head
  | error error =>
      have later := tail error
      exact ⟨List.forall_mem_append.mpr ⟨head.1, List.forall_mem_cons.mpr ⟨head.2, later.1⟩⟩, later.2⟩

theorem all_last {last : Point} {outcome : Except Error α} (isGood : good last) :
    (⟨[], outcome, last⟩ : Trace α).All good := ⟨List.forall_mem_nil _, isGood⟩

theorem all_carryOut {point : Point} {operation : Run α} {events : Except Error α → List Event}
    (isGood : good ⟨point.events ++ events (perform operation point.world).1, (perform operation point.world).2⟩) :
    (point.carryOut operation events).All good := all_last isGood

/-- An operation without events only has to leave a good world. -/
theorem all_carryOut_silent {point : Point} {operation : Run α}
    (isGood : good ⟨point.events, (perform operation point.world).2⟩) :
    (point.carryOut operation fun _ => []).All good := by
  apply all_carryOut
  rw [List.append_nil]
  exact isGood

end Trace

namespace World.Program

variable {permits : ∀ α : Type, Run α → Prop} {good : World → Prop}

/-- What all that is made of the simple operations keeps, and all that is permitted too, is so at all points. -/
theorem all_follow (composed : ∀ {α : Type} {operation : Run α}, operation.Composed → Keeps good operation)
    (permitted : ∀ {α : Type} {operation : Run α}, permits α operation → Keeps good operation) {α : Type}
    (program : World.Program permits α) {point : Point} (isGood : good point.world) :
    (program.follow point).All fun later => good later.world := by
  have single {β : Type} {operation : Run β} {events : Except Error β → List Event} {point : Point}
      (isComposed : operation.Composed) (isGood : good point.world) :
      (point.carryOut operation events).All fun later => good later.world :=
    Trace.all_last (composed isComposed point.world isGood)
  induction program generalizing point with
  | other operation isPermitted => exact Trace.all_last (permitted isPermitted point.world isGood)
  | create root settings pipelines =>
      exact single (fun _ kept => kept.keeps_createBuilder root settings pipelines) isGood
  | block root settings pipelines body ih =>
      have opened : (point.carryOut (Run.createBuilder root settings pipelines) Event.ofMaking).All fun later =>
          good later.world := single (fun _ kept => kept.keeps_createBuilder root settings pipelines) isGood
      apply opened.andThen
      intro number _
      have inside := ih number opened.2
      have left : (Trace.orElse _ (Point.leave number)).All _ := inside.orElse fun error =>
        Trace.all_last (composed (fun _ kept => kept.keeps_abandon number) _ inside.2)
      exact left.andThen fun _ _ => single (fun _ kept => kept.finalize number) left.2
  | finalize number => exact single (fun _ kept => kept.finalize number) isGood
  | finalizeAll => exact single (fun _ kept => kept.keeps_finalizeAll) isGood
  | reset => exact single (fun _ kept => kept.keeps_reset) isGood
  | next first rest ihFirst ihRest =>
      have head := ihFirst isGood
      apply head.andThen
      intro value _
      exact ihRest value head.2
  | attempt body handler ihBody ihHandler =>
      have head := ihBody isGood
      apply head.orElse
      intro error
      exact ihHandler error head.2

end World.Program

end SpecGraph
