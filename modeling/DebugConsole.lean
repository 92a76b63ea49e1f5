import DebugConsole.Main
import DebugConsole.Proofs.Bounded.Run
import DebugConsole.Proofs.Console.HostRun
import DebugConsole.Proofs.Frame.Hiding
import DebugConsole.Proofs.Frame.Stripping
import DebugConsole.Proofs.Log.Display
import DebugConsole.Proofs.Log.Interleaving
import DebugConsole.Proofs.Log.Targets
import DebugConsole.Proofs.Preset.MenuRows
import DebugConsole.Proofs.Token.Written
import DebugConsole.TextStyle.Json
import DebugConsole.Proofs.Registry.Admission
import DebugConsole.Proofs.Text.ByteOrder
import DebugConsole.Proofs.Registry.Run
import DebugConsole.Proofs.Console.Invocation
import DebugConsole.Proofs.Console.Operations
import DebugConsole.Proofs.Console.Settings
import DebugConsole.Proofs.Console.Signalling
import DebugConsole.Proofs.Console.OwnRecords
import DebugConsole.Proofs.HostAction.Spelling
import DebugConsole.Proofs.History.Resizing
import DebugConsole.Proofs.History.Run
import DebugConsole.Proofs.Console.Activation
import DebugConsole.Proofs.Screen.Expiry
import DebugConsole.Proofs.Session.Opening
import DebugConsole.Proofs.Demo.Arguments
import DebugConsole.Proofs.Session.Transcript
import DebugConsole.Proofs.Console.Replay
import DebugConsole.Proofs.Console.Requests
import DebugConsole.Proofs.Token.Decomposition
import DebugConsole.Proofs.Token.Objects
import DebugConsole.Proofs.Token.Trimming
import DebugConsole.Proofs.Color.Hex
import DebugConsole.Proofs.Config.Acceptance
import DebugConsole.Proofs.Console.FillingIn
import DebugConsole.Proofs.HostAction.Completing
