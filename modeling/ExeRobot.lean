import ExeRobot.Java.Text
import ExeRobot.IRArray.Density
import ExeRobot.Library.Loop
import ExeRobot.Library.RowEquivalent
import ExeRobot.Nav.GaussJordan
import ExeRobot.Library.Tolerance
import ExeRobot.Nav.Elimination
import ExeRobot.Nav.GaussJordanCorrect
import ExeRobot.Nav.Convergence
import ExeRobot.Nav.FixedPoint
import ExeRobot.Robot.Command
import ExeRobot.Robot.RXTXRobot
import ExeRobot.IRArray.IndexBetween
import ExeRobot.Robot.EXERobot
import ExeRobot.Library.Effect
import ExeRobot.Robot.Script
import ExeRobot.Robot.OpScript
import ExeRobot.Robot.Parking
import ExeRobot.Robot.Localisation
import ExeRobot.Robot.BumpLoop
import ExeRobot.Robot.Freshness
import ExeRobot.Library.Ends
import ExeRobot.Robot.Returns
import ExeRobot.Robot.Vote
import ExeRobot.Nav.Reuse
import ExeRobot.Nav.Mirror
import ExeRobot.Robot.Timing
import ExeRobot.Robot.Sweep
import ExeRobot.Library.Sentinel
import ExeRobot.Robot.Failures
import ExeRobot.Robot.Settling
import ExeRobot.Robot.Driver
import ExeRobot.Device.Line
import ExeRobot.Library.Labelled
import ExeRobot.Library.Persistent
import ExeRobot.Device.Port
import ExeRobot.Device.Methods
import ExeRobot.Device.Calls
import ExeRobot.Device.Change
import ExeRobot.Device.Leads
import ExeRobot.Device.Quiet
import ExeRobot.Device.Paths
import ExeRobot.Device.Motors
import ExeRobot.Device.Closing
import ExeRobot.Device.Sending
import ExeRobot.Device.Pins
import ExeRobot.Device.Octets
import ExeRobot.Device.Caches
import ExeRobot.Device.Agreement
import ExeRobot.Device.Programs
