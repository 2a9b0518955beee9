import Spool.Bytes
import Spool.Allocation
import Spool.Options
import Spool.Event
import Spool.Buffer.Basic
import Spool.Buffer.Lemmas
import Spool.Peer.Basic
import Spool.Peer.Scripted
import Spool.Buffer.Transfer
import Spool.Buffer.Read
import Spool.Buffer.Lines
import Spool.Pump
import Spool.Operation
import Spool.Text.Glyphless
import Spool.Text.Utf8
import Spool.Text.Escape
import Spool.Options.Field
import Spool.Options.Text
import Spool.Buffer.Text
import Spool.Decimal.Shortest
import Spool.Decimal.Notation
import Spool.Json.Lexeme
import Spool.Options.Problem
import Spool.Options.Reader
import Spool.Trial.Program
import Spool.Trial.Decode
import Spool.Trial.Run
import Spool.Proofs.Exits
import Spool.Proofs.History
import Spool.Proofs.Queue
import Spool.Proofs.Change
import Spool.Proofs.Layout
import Spool.Proofs.Refusal
import Spool.Proofs.Honest
import Spool.Proofs.Pumping
import Spool.Proofs.Ledger
import Spool.Proofs.Growth
import Spool.Proofs.Reading
import Spool.Proofs.Reservation
import Spool.Proofs.Window
import Spool.Proofs.Traps
import Spool.Proofs.Log
import Spool.Proofs.Backlog
import Spool.Proofs.Decoding
import Spool.Proofs.WindowTrial
import Spool.Proofs.Trials
import Spool.Proofs.Pipeline
import Spool.Proofs.Tiers
import Spool.Proofs.Stale
import Spool.Proofs.JsonLexemes
import Spool.Proofs.JsonGrammar
import Spool.Proofs.OptionsMeaning
import Spool.Proofs.OptionsReading
import Spool.Proofs.OptionsRoundTrip
import Spool.Proofs.Appending
import Spool.Proofs.Filling
import Spool.Proofs.Extents
import Spool.Proofs.Lines
import Spool.Proofs.Shortage
import Spool.Proofs.Commuting
import Spool.Proofs.Draining
import Spool.Proofs.Shrinking
import Spool.Proofs.Encoding
import Spool.Proofs.Moving
import Spool.Proofs.JsonExtending
import Spool.Proofs.FirstProblem
