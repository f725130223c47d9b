import LinearPrograms.Engine.SplitModel
import LinearPrograms.Engine.NamedModel

/-!
# The catalogue of engines

The engines that a caller can name, each with its way of handing over a model.
-/

namespace LinearPrograms

/-- Backends that answer handed-over models, on a common state. -/
structure Backends (β : Type) where
  split : SplitModel → Action β SplitAnswer
  named : NamedModel → Action β NamedAnswer

/-- The engines by name, in the order of their names; `initial` is the state of the backends. -/
def Backends.catalogue {β : Type} (backends : Backends β) (round : Rounding) (initial : β) :
    List (String × Engine (LoadedProblem β)) :=
  [("cbc", .ofRunner (NamedModel.runner round backends.named) initial),
   ("highs", .ofRunner (SplitModel.runner round backends.split) initial)]

end LinearPrograms
