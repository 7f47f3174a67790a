import PolledTerminal.Main
import PolledTerminal.Rehearsal
import PolledTerminal.Proofs.Terminal.NoOverruns
import PolledTerminal.Proofs.Terminal.Refinement
import PolledTerminal.Proofs.Session.Completeness
import PolledTerminal.Proofs.Program.ScriptedRuns
import PolledTerminal.Proofs.Bus.AddressSpace
import PolledTerminal.Proofs.Bus.Reordering
import PolledTerminal.Proofs.Bus.Owners
import PolledTerminal.Proofs.Display.Determined
import PolledTerminal.Proofs.Machine.Advancing
import PolledTerminal.Proofs.Machine.Recounting
import PolledTerminal.Proofs.Machine.Runs
import PolledTerminal.Proofs.SelfTest
import PolledTerminal.Proofs.Board.Acceptance
import PolledTerminal.Proofs.Board.Settings
import PolledTerminal.Proofs.Board.Oversized
import PolledTerminal.Proofs.Suite.Document
import PolledTerminal.Proofs.Suite.Verdicts
import PolledTerminal.Proofs.Program.Mirroring
import PolledTerminal.Proofs.Suite.Assertions
import PolledTerminal.Proofs.Terminal.Accounts
import PolledTerminal.Proofs.Terminal.Failing
import PolledTerminal.Proofs.Terminal.Redraws
import PolledTerminal.Proofs.Terminal.Unterminated
import PolledTerminal.Proofs.Keyboard
import PolledTerminal.Proofs.Machine.Images
import PolledTerminal.Proofs.Session.LineEnds
import PolledTerminal.Proofs.Session.Seen
import PolledTerminal.Proofs.Waiting
import PolledTerminal.Proofs.Arithmetic
import PolledTerminal.Proofs.Script.Strictness
import PolledTerminal.Proofs.Machine.Snapshots
