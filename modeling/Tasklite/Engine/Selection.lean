import Tasklite.Models.State

/-! Selection rules: which task types a run leaves alone. Jobs of an excluded type
stay in the queue for a later run, jobs of a skipped type are taken out of it. -/

namespace Tasklite.Engine
open Tasklite.Library Tasklite.Models

/-- A rule of a selection. A rule of the user's own counts as an exclusion. -/
inductive Rule where
  | exclude (taskType : String)
  | skip (taskType : String)
  | custom (matches_ : String → Bool)

namespace Rule

def matchesTaskType (taskType : String) : Rule → Bool
  | .exclude other | .skip other => taskType = other
  | .custom matches_ => matches_ taskType

def isSkip : Rule → Bool
  | .skip _ => true
  | _ => false

end Rule

structure Selection where
  rules : List Rule

namespace Selection

def isActive (selection : Selection) : Bool := !selection.rules.isEmpty

def hasSkipRules (selection : Selection) : Bool := selection.rules.any Rule.isSkip

def isSkipped (selection : Selection) (taskType : String) : Bool :=
  selection.rules.any fun rule => rule.isSkip && rule.matchesTaskType taskType

/-- Skipping wins over excluding. -/
def isExcluded (selection : Selection) (taskType : String) : Bool :=
  !selection.isSkipped taskType &&
    selection.rules.any fun rule => !rule.isSkip && rule.matchesTaskType taskType

def allowsTaskType (selection : Selection) (taskType : String) : Bool :=
  !selection.isSkipped taskType && !selection.isExcluded taskType

end Selection

end Tasklite.Engine
