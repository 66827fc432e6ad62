import DeskCalc.Expression.Call
import DeskCalc.Main
import DeskCalc.Prompt
import DeskCalc.Proofs.Expression.Longest
import DeskCalc.Proofs.Expression.Reading
import DeskCalc.Proofs.Expression.SyntaxTree
import DeskCalc.Proofs.Expression.Failing
import DeskCalc.Proofs.Expression.InfiniteAngle
import DeskCalc.Proofs.Number.Double
import DeskCalc.Proofs.Number.NearestDouble
import DeskCalc.Proofs.Number.DecimalText
import DeskCalc.Proofs.Number.ShownNumber
import DeskCalc.Proofs.Expression.Numeral
import DeskCalc.Proofs.Number.SpelledPlaces
import DeskCalc.Proofs.ShownResult
import DeskCalc.Proofs.Window.Delivery
import DeskCalc.Proofs.Expression.Completion
import DeskCalc.Proofs.Expression.Misfit
import DeskCalc.Proofs.Display.Editing
import DeskCalc.Proofs.Display.Typing
import DeskCalc.Proofs.Window.Painting
import DeskCalc.Proofs.Window.Running
import DeskCalc.Proofs.Display.Chaining
import DeskCalc.Proofs.Window.Lines
import DeskCalc.Proofs.Settings.Loading
import DeskCalc.Proofs.Settings.Saving
import DeskCalc.Proofs.Window.Attempts
import DeskCalc.Proofs.Window.Refinement
import DeskCalc.Proofs.Window.Repeating
import DeskCalc.Proofs.RoundedResult
import DeskCalc.Proofs.Expression.Origin
import DeskCalc.Proofs.Expression.Powers
import DeskCalc.Proofs.WholeResult
import DeskCalc.Proofs.Settings.FailedSave
import DeskCalc.Proofs.Window.WrittenPlaces
import DeskCalc.Proofs.Display.Pointing
import DeskCalc.Proofs.Display.FirstCharacter
import DeskCalc.Proofs.Window.Keys
import DeskCalc.Proofs.Expression.Calls
