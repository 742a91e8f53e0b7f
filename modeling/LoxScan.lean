import LoxScan.Main
import LoxScan.Proofs.Boundary
import LoxScan.Proofs.Grammar
import LoxScan.Proofs.Numeral
import LoxScan.Proofs.Run
import LoxScan.Proofs.Report
import LoxScan.Proofs.Outcome
import LoxScan.Proofs.Echo
import LoxScan.Proofs.Prompt
import LoxScan.Proofs.Meaning
import LoxScan.Proofs.Lines
import LoxScan.Proofs.Joining
import LoxScan.Proofs.Layout
import LoxScan.Proofs.Stability
import LoxScan.Proofs.Utf8
import LoxScan.Proofs.Returns
import LoxScan.Proofs.Walk
import LoxScan.Proofs.Resume
import LoxScan.Proofs.Order
import LoxScan.Proofs.Told
import LoxScan.Proofs.Afresh
import LoxScan.Proofs.Level
import LoxScan.Proofs.Body
import LoxScan.Proofs.Renaming
import LoxScan.Proofs.Terminal
import LoxScan.Proofs.Setup
import LoxScan.Proofs.Comment
import LoxScan.Proofs.Copies
