import CommandInterpreter.Main
import CommandInterpreter.Command.Scripted
import CommandInterpreter.Input.PipedEditor
import CommandInterpreter.Input.GivenLines
import CommandInterpreter.Input.Scripted
import CommandInterpreter.Input.StreamReader
import CommandInterpreter.Machine.Change
import CommandInterpreter.Proofs.Execution
import CommandInterpreter.Proofs.TokenGrammar
import CommandInterpreter.Proofs.LoopRuns
import CommandInterpreter.Proofs.Draining
import CommandInterpreter.Proofs.LossyText
import CommandInterpreter.Proofs.EncodedText
import CommandInterpreter.Proofs.RawTokens
import CommandInterpreter.Proofs.ReadersAgree
import CommandInterpreter.Proofs.FirstAccepting
import CommandInterpreter.Proofs.Observation
import CommandInterpreter.Proofs.DirectoriesInStep
import CommandInterpreter.Proofs.History
import CommandInterpreter.Proofs.LaunchRequests
import CommandInterpreter.Proofs.Queries
import CommandInterpreter.Proofs.MachineAnswers
import CommandInterpreter.Proofs.ProcessIndependence
import CommandInterpreter.Proofs.StreamIndependence
import CommandInterpreter.Proofs.ExitLine
import CommandInterpreter.Proofs.StreamContents
import CommandInterpreter.Proofs.Printout
import CommandInterpreter.Proofs.Reports
import CommandInterpreter.Proofs.HandleIndependence
import CommandInterpreter.Proofs.LimitedStreams
import CommandInterpreter.Proofs.PathText
import CommandInterpreter.Proofs.ProgramLookup
import CommandInterpreter.Proofs.CopiedDiagnostics
import CommandInterpreter.Proofs.ChunkedInput
import CommandInterpreter.Proofs.Turns
import CommandInterpreter.Proofs.SharedInput
import CommandInterpreter.Proofs.Transcript
import CommandInterpreter.Proofs.InputEvents
import CommandInterpreter.Proofs.LimitedPrompts
import CommandInterpreter.Proofs.AppendedLauncher
import CommandInterpreter.Proofs.OwnHistories
