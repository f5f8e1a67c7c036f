import TagEmulation.Bits.Reverse
import TagEmulation.Transport.Bench
import TagEmulation.Stored.Identity
import TagEmulation.Stored.Config
import TagEmulation.Main
import TagEmulation.Proofs.Session.Unsent
import TagEmulation.Proofs.Script.Course
import TagEmulation.Proofs.Text.HexGrammar
import TagEmulation.Proofs.Responder.Answers
import TagEmulation.Proofs.Checksum.Errors
import TagEmulation.Proofs.Session.Accounts
import TagEmulation.Proofs.Script.Buffers
import TagEmulation.Proofs.Script.Offload
import TagEmulation.Proofs.Script.OpenBits
import TagEmulation.Proofs.Session.Safety
import TagEmulation.Proofs.Frame.Shown
import TagEmulation.Proofs.Session.Quiet
import TagEmulation.Proofs.Session.Handouts
import TagEmulation.Proofs.Codec.Bounds
import TagEmulation.Proofs.Session.Stages
import TagEmulation.Proofs.Script.Transcript
import TagEmulation.Proofs.Parity.Errors
import TagEmulation.Proofs.Text.Marks
import TagEmulation.Proofs.Session.Warnings
import TagEmulation.Proofs.Text.Retyped
import TagEmulation.Proofs.Session.BringUp
import TagEmulation.Proofs.Text.ReadBack
import TagEmulation.Proofs.Codec.Checks
import TagEmulation.Proofs.Setup.LastChange
import TagEmulation.Proofs.Script.OwnParity
import TagEmulation.Proofs.Bits.Reversal
import TagEmulation.Proofs.Frame.Reframing
import TagEmulation.Proofs.CommandLine.Report
