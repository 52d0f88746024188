import Upkeep.Text.Blank
/-!
Pipelines: the columns of the board that issues are sorted into.
-/

namespace Upkeep

/-- The board column that an issue sits in. -/
structure Pipeline where
  name : String
deriving DecidableEq, Repr

namespace Pipeline

/-- The column of a given name; a blank name is no column. -/
def ofName? (name : String) : Option Pipeline := if isBlankText name then none else some ⟨name⟩

/-- The column of issues that nobody has looked at yet. -/
def newIssues : String := "New Issues"

/-- The columns whose issues must get an answer from a maintainer quickly. -/
def highPriority : List String := ["P0", "Release Blocker"]

/-- The column holds issues that still have to be classified. -/
def isUntriaged (p : Pipeline) : Bool := p.name == newIssues

def isHighPriority (p : Pipeline) : Bool := highPriority.contains p.name

end Pipeline

end Upkeep
