/-!
# Printed lines

What a program prints goes to a sink. A *buffer* keeps the lines for whoever runs the program to
look at; a *console* hands them on, which is up to the outermost layer, so here it only collects
what has not been handed on yet; a *silent* sink drops them.
-/

namespace StackScript

/-- Where printed lines go. -/
inductive Sink where
  /-- kept for inspection -/
  | buffer (text : String)
  /-- on the way to a console -/
  | console (pending : String)
  /-- dropped -/
  | silent
  deriving DecidableEq, Repr

namespace Sink

/-- Prints one line. -/
def println (line : String) : Sink → Sink
  | .buffer text => .buffer (text ++ line ++ "\n")
  | .console pending => .console (pending ++ line ++ "\n")
  | .silent => .silent

/-- What has been captured for inspection: nothing, unless the sink is a buffer. -/
def captured : Sink → String
  | .buffer text => text
  | .console _ | .silent => ""

/-- Forgets what has been captured. -/
def clear : Sink → Sink
  | .buffer _ => .buffer ""
  | sink => sink

/-- What waits to be handed to the console, and the sink after that is done. -/
def flush : Sink → String × Sink
  | .console pending => (pending, .console "")
  | sink => ("", sink)

end Sink

end StackScript
