import StackScript.Main
import StackScript.Value.Equal
import StackScript.Proofs.Operator.Atomic
import StackScript.Proofs.Run.Step
import StackScript.Proofs.Run.Recovery
import StackScript.Proofs.Run.Stepping
import StackScript.Proofs.Run.Termination
import StackScript.Proofs.Run.Budget
import StackScript.Proofs.Run.Log
import StackScript.Proofs.Run.Modes
import StackScript.Proofs.Run.Fatal
import StackScript.Proofs.Number.Double
import StackScript.Proofs.Number.Rounding
import StackScript.Proofs.Number.Literal
import StackScript.Proofs.Token.Longest
import StackScript.Proofs.Token.Word
import StackScript.Proofs.Token.Scan
import StackScript.Proofs.Token.Capture
import StackScript.Proofs.Token.Language
import StackScript.Proofs.Token.Cutting
import StackScript.Proofs.Token.Lines
import StackScript.Proofs.NumberTree.Literal
import StackScript.Proofs.Program.Reading
import StackScript.Proofs.Program.RoundTrip
import StackScript.Proofs.Nesting
import StackScript.Proofs.Program.Blocks
import StackScript.Proofs.Program.Shift
import StackScript.Proofs.Program.Lines
import StackScript.Proofs.Value.Difference
import StackScript.Proofs.Value.Comparison
import StackScript.Proofs.Value.Equality
import StackScript.Proofs.Operator.Effect
import StackScript.Proofs.Run.Steps
import StackScript.Proofs.Session.Action
import StackScript.Proofs.Session.Scope
import StackScript.Proofs.Value.Reachable
import StackScript.Proofs.Session.Data
import StackScript.Proofs.Operator.Refusal
import StackScript.Proofs.Run.Limit
import StackScript.Proofs.Session.Reset
import StackScript.Proofs.Session.Writing
import StackScript.Proofs.Session.Shape
import StackScript.Proofs.Operator.Integers
import StackScript.Proofs.NumberTree.Group
import StackScript.Proofs.Program.Rejection
import StackScript.Proofs.Program.Place
import StackScript.Proofs.Run.Loop
import StackScript.Proofs.Number.Overflow
import StackScript.Proofs.Program.Literals
import StackScript.Proofs.Value.Written
import StackScript.Proofs.Value.Cycle
import StackScript.Proofs.Value.Printing
import StackScript.Proofs.Session.Definition
import StackScript.Proofs.Session.Slots
import StackScript.Proofs.Operator.Catalogue
import StackScript.Proofs.NumberTree.Grammar
import StackScript.Proofs.Operator.Copying
import StackScript.Proofs.Token.Depth
import StackScript.Proofs.Program.Renderer
import StackScript.Proofs.Program.Drawing
import StackScript.Proofs.Program.Excerpt
import StackScript.Proofs.Session.Depth
