import SwapWatch.Block
import SwapWatch.Bytes
import SwapWatch.Command.Arguments
import SwapWatch.Command.Load
import SwapWatch.Command.Run
import SwapWatch.Covenant
import SwapWatch.Decimal
import SwapWatch.Detection.Detector
import SwapWatch.Detection.Event
import SwapWatch.Entries
import SwapWatch.Follow.Range
import SwapWatch.Follow.Run
import SwapWatch.Hash
import SwapWatch.Json.Basic
import SwapWatch.Json.Printer
import SwapWatch.Json.Reader
import SwapWatch.Main
import SwapWatch.Node.Address
import SwapWatch.Node.Archive
import SwapWatch.Node.Client
import SwapWatch.Node.Request
import SwapWatch.Proofs.Block.Delimited
import SwapWatch.Proofs.Block.Layout
import SwapWatch.Proofs.Block.Parts
import SwapWatch.Proofs.Command.Load
import SwapWatch.Proofs.Command.Run
import SwapWatch.Proofs.Covenant.Redeem
import SwapWatch.Proofs.Detection.Agreement
import SwapWatch.Proofs.Detection.Canonical
import SwapWatch.Proofs.Detection.Declared
import SwapWatch.Proofs.Detection.Deposit
import SwapWatch.Proofs.Detection.Parts
import SwapWatch.Proofs.Detection.Reclaim
import SwapWatch.Proofs.Detection.Spend
import SwapWatch.Proofs.Detection.Spent
import SwapWatch.Proofs.Follow.Call
import SwapWatch.Proofs.Follow.CatchingUp
import SwapWatch.Proofs.Follow.Delivery
import SwapWatch.Proofs.Follow.Episode
import SwapWatch.Proofs.Follow.ExactlyOnce
import SwapWatch.Proofs.Follow.Journal
import SwapWatch.Proofs.Follow.Range
import SwapWatch.Proofs.Follow.Run
import SwapWatch.Proofs.Json.Bytes
import SwapWatch.Proofs.Json.Numbers
import SwapWatch.Proofs.Json.RoundTrip
import SwapWatch.Proofs.Json.Strict
import SwapWatch.Proofs.Json.Strings
import SwapWatch.Proofs.Node.Accepted
import SwapWatch.Proofs.Node.Archive
import SwapWatch.Proofs.Node.Outcome
import SwapWatch.Proofs.Node.Refinement
import SwapWatch.Proofs.Node.Served
import SwapWatch.Proofs.Node.Session
import SwapWatch.Proofs.Scan.Classify
import SwapWatch.Proofs.Scan.Merge
import SwapWatch.Proofs.Script.Carried
import SwapWatch.Proofs.Script.Disassembly
import SwapWatch.Proofs.Script.Items
import SwapWatch.Proofs.Script.Number
import SwapWatch.Proofs.Script.Push
import SwapWatch.Proofs.Script.Shortest
import SwapWatch.Proofs.Script.Template
import SwapWatch.Proofs.Script.Tokens
import SwapWatch.Proofs.Settings.Loaded
import SwapWatch.Proofs.Settings.Normal
import SwapWatch.Proofs.Settings.Registry
import SwapWatch.Proofs.Text.Hex
import SwapWatch.Proofs.Text.Utf8
import SwapWatch.Proofs.Transaction.Canonical
import SwapWatch.Proofs.Transaction.Layout
import SwapWatch.Proofs.Transaction.RoundTrip
import SwapWatch.Proofs.Wire.Counted
import SwapWatch.Proofs.Wire.Field
import SwapWatch.Proofs.Wire.Reader
import SwapWatch.Proofs.Wire.Shortest
import SwapWatch.Proofs.Wire.Spelling
import SwapWatch.Scan
import SwapWatch.Script.Op
import SwapWatch.Script.Push
import SwapWatch.Script.Tokens
import SwapWatch.Settings.Basic
import SwapWatch.Settings.Config
import SwapWatch.Settings.EnvFile
import SwapWatch.Text.Encoding
import SwapWatch.Text.Hex
import SwapWatch.Text.Number
import SwapWatch.Text.Points
import SwapWatch.Text.Quoted
import SwapWatch.Transaction
import SwapWatch.Wire.Field
import SwapWatch.Wire.Reader
