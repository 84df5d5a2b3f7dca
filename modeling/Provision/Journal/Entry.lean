/-!
# Journal entries

* `Entry`: what goes into a journal: a numbered step, a message at a level under a topic, or a line
  that answers the user.
* `Entry.mark`: a message with its topic, which is what makes two warnings the same.
-/

namespace Provision

/-- How grave a message is. -/
inductive Level where
  | verbose
  | debug
  | warning
  | error
deriving DecidableEq, Repr

/-- What goes into a journal. -/
inductive Entry where
  | step (number total : Int) (message : String)
  | note (level : Level) (topic message : String)
  /-- A line that answers the user, whatever else is shown. -/
  | said (line : String)
deriving DecidableEq, Repr

/-- A message with its topic. -/
def Entry.mark (topic message : String) : String := "[" ++ topic ++ "] " ++ message

end Provision
