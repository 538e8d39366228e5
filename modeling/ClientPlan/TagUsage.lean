import ClientPlan.Client.Operation
import ClientPlan.OrderedMap

/-! # Tag usage

Which kinds of operation each tag has, in the order in which the tags are first seen. -/

namespace ClientPlan

/-- Whether a tag has retrievals, and whether it has mutations. -/
structure Usage where
  hasRetrieval : Bool := false
  hasMutation : Bool := false
  deriving DecidableEq, Inhabited, Repr

/-- The usage after one more operation of the given kind. -/
def Usage.note (usage : Usage) : Client.Kind → Usage
  | .retrieval => { usage with hasRetrieval := true }
  | .mutation => { usage with hasMutation := true }

/-- The usage of each tag, in the order in which tags are first seen. -/
abbrev TagUsage := OrderedMap Usage

namespace TagUsage

/-- The usage after one more operation under a tag. -/
def record (usage : TagUsage) (tag : String) (kind : Client.Kind) : TagUsage :=
  usage.update tag {} (·.note kind)

/-- The tags of operations with the kind of each, in order. -/
def steps (ops : List Client.Operation) : List (String × Client.Kind) :=
  ops.flatMap fun op => op.tags.map fun tag => (tag, op.kind)

/-- The usage after some steps. -/
def ofSteps (steps : List (String × Client.Kind)) : TagUsage :=
  steps.foldl (fun usage step => usage.record step.1 step.2) []

/-- The usage of the tags of some operations. -/
def ofOperations (ops : List Client.Operation) : TagUsage :=
  ofSteps (steps ops)

end TagUsage

end ClientPlan
