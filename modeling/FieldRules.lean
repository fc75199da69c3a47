import FieldRules.Host.World
import FieldRules.Main
import FieldRules.Proofs.Session.History
import FieldRules.Proofs.Session.Ledger
import FieldRules.Proofs.Session.Errors
import FieldRules.Proofs.Session.Delivery
import FieldRules.Proofs.Session.Order
import FieldRules.Proofs.Session.Conduct
import FieldRules.Proofs.Rule.Brackets
import FieldRules.Proofs.Rule.Cutting
import FieldRules.Proofs.Rule.Splitting
import FieldRules.Proofs.Rule.Render
import FieldRules.Proofs.Json.DigitRun
import FieldRules.Proofs.Rpc.Response
import FieldRules.Proofs.Rule.Accepted
import FieldRules.Proofs.Session.Usable
import FieldRules.Proofs.Session.FanOut
import FieldRules.Proofs.Rule.Verdict
import FieldRules.Proofs.Template.Plain
import FieldRules.Proofs.Session.Builtin
import FieldRules.Proofs.Host.Copy
import FieldRules.Proofs.Settings.Table
import FieldRules.Proofs.Service.Loading
import FieldRules.Proofs.Service.Pool
import FieldRules.Proofs.Rpc.Serving
import FieldRules.Proofs.Service.Snapshot
import FieldRules.Proofs.Settings.Copies
import FieldRules.Proofs.Session.Manner
import FieldRules.Proofs.Session.Waiting
import FieldRules.Proofs.Session.Schedule
import FieldRules.Proofs.Session.Awaiting
import FieldRules.Proofs.Rule.Refused
import FieldRules.Proofs.Rule.Grammar
import FieldRules.Proofs.Session.Configured
import FieldRules.Proofs.Settings.Failure
import FieldRules.Proofs.Settings.Policy
import FieldRules.Proofs.Service.Reloading
import FieldRules.Proofs.Session.Rewriting
import FieldRules.Proofs.Service.Refusal
import FieldRules.Proofs.Rule.Moving
import FieldRules.Proofs.Session.Captured
import FieldRules.Proofs.Session.Decided
import FieldRules.Proofs.Session.Confidential
import FieldRules.Proofs.Session.Blank
import FieldRules.Proofs.Service.Verdicts
import FieldRules.Proofs.Service.Sanitizing
import FieldRules.Proofs.Service.Reordering
import FieldRules.Proofs.Rule.Address
import FieldRules.Proofs.Rule.Numerals
import FieldRules.Proofs.Markup.Reference
import FieldRules.Proofs.Markup.Settled
import FieldRules.Proofs.Rule.Shapes
import FieldRules.Proofs.Rule.Fronts
import FieldRules.Proofs.Session.Gathering
import FieldRules.Proofs.Service.Leniency
import FieldRules.Proofs.Rpc.Parameters
