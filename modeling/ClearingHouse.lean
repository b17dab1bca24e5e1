import ClearingHouse.Amount
import ClearingHouse.Api.Bank
import ClearingHouse.Api.Body
import ClearingHouse.Api.House
import ClearingHouse.Api.Paths
import ClearingHouse.Bank.Account
import ClearingHouse.Bank.Basic
import ClearingHouse.Bank.Call
import ClearingHouse.Bank.Leg
import ClearingHouse.Bank.OpeningBalances
import ClearingHouse.Bank.Orders
import ClearingHouse.Client.Delivery
import ClearingHouse.Client.Instruction
import ClearingHouse.Client.Outbox
import ClearingHouse.CommandLine.Bank
import ClearingHouse.CommandLine.Client
import ClearingHouse.CommandLine.House
import ClearingHouse.CommandLine.Machine
import ClearingHouse.Decimal.Basic
import ClearingHouse.Decimal.Binary64
import ClearingHouse.Decimal.Reader
import ClearingHouse.Decimal.Shortest
import ClearingHouse.House
import ClearingHouse.Http.Domain
import ClearingHouse.Http.Domain.Direction
import ClearingHouse.Http.Domain.Folding
import ClearingHouse.Http.Domain.Joining
import ClearingHouse.Http.Domain.Label
import ClearingHouse.Http.Host
import ClearingHouse.Http.MediaType
import ClearingHouse.Http.Message
import ClearingHouse.Http.Path
import ClearingHouse.Http.Status
import ClearingHouse.Http.Url
import ClearingHouse.Identifier
import ClearingHouse.Identity.Caller
import ClearingHouse.Identity.Credentials
import ClearingHouse.Identity.Directory
import ClearingHouse.Identity.Key
import ClearingHouse.Identity.Token
import ClearingHouse.Json.Reader
import ClearingHouse.Json.Text
import ClearingHouse.Json.Tree
import ClearingHouse.LegOrder
import ClearingHouse.Main
import ClearingHouse.Message.Basic
import ClearingHouse.Message.Envelope
import ClearingHouse.Message.Order
import ClearingHouse.Message.Payment
import ClearingHouse.Power
import ClearingHouse.Proofs.Bank.Applied
import ClearingHouse.Proofs.Bank.Effect
import ClearingHouse.Proofs.Bank.Ready
import ClearingHouse.Proofs.Bank.Standing
import ClearingHouse.Proofs.Bank.Turn
import ClearingHouse.Proofs.Branch.Basic
import ClearingHouse.Proofs.Branch.ExactlyOnce
import ClearingHouse.Proofs.Branch.Promise
import ClearingHouse.Proofs.Floor.Basic
import ClearingHouse.Proofs.Floor.Change
import ClearingHouse.Proofs.Floor.Conclusion
import ClearingHouse.Proofs.Floor.Replay
import ClearingHouse.Proofs.Floor.Sound
import ClearingHouse.Proofs.Hall.Basic
import ClearingHouse.Proofs.Hall.Failures
import ClearingHouse.Proofs.Hall.Holds
import ClearingHouse.Proofs.Hall.Sound
import ClearingHouse.Proofs.Hall.Wealth
import ClearingHouse.Proofs.Mail.Basic
import ClearingHouse.Proofs.Mail.Change
import ClearingHouse.Proofs.Mail.Money
import ClearingHouse.Proofs.Mail.Sound
import ClearingHouse.Proofs.Mail.Stray
import ClearingHouse.Proofs.RunThrough
import ClearingHouse.Proofs.Sample
import ClearingHouse.Proofs.TableSum
import ClearingHouse.Refusal
import ClearingHouse.Rehearsal.BankPlay
import ClearingHouse.Rehearsal.ClientPlay
import ClearingHouse.Rehearsal.HousePlay
import ClearingHouse.Rehearsal.JournalPlay
import ClearingHouse.Rehearsal.ProgramPlay
import ClearingHouse.Rehearsal.Schedule
import ClearingHouse.Rehearsal.Town
import ClearingHouse.Remote.Bank
import ClearingHouse.Remote.House
import ClearingHouse.Remote.Outgoing
import ClearingHouse.Remote.Registration
import ClearingHouse.Settings.Basic
import ClearingHouse.Settings.Reader
import ClearingHouse.Signature.Base64Url
import ClearingHouse.Signature.Keyed
import ClearingHouse.Signature.Sha256
import ClearingHouse.Table
import ClearingHouse.Text.Blank
import ClearingHouse.Text.Codes
import ClearingHouse.Text.Composition
import ClearingHouse.Text.Marks
import ClearingHouse.Text.Numeral
import ClearingHouse.Text.Pieces
import ClearingHouse.Text.Punycode
import ClearingHouse.Text.Quoted
import ClearingHouse.Text.Ranges
import ClearingHouse.Text.Unshown
import ClearingHouse.Transfer.Basic
import ClearingHouse.Transfer.Failure
import ClearingHouse.Transfer.Journal
import ClearingHouse.Transfer.Roster
import ClearingHouse.Transfer.Settlement
import ClearingHouse.Yaml.Cursor
import ClearingHouse.Yaml.Node
import ClearingHouse.Yaml.Scalar
import ClearingHouse.Yaml.Token
import ClearingHouse.Proofs.Branch.Custody
import ClearingHouse.Proofs.Branch.LastPrepared
import ClearingHouse.Proofs.Floor.Course
import ClearingHouse.Proofs.Floor.Policy
import ClearingHouse.Proofs.Mail.Pledge
import ClearingHouse.Proofs.Mail.Overtaken
import ClearingHouse.Proofs.Bank.Promised
import ClearingHouse.Proofs.Hall.Forgotten
import ClearingHouse.Proofs.Counter.Basic
import ClearingHouse.Proofs.Counter.Holder
import ClearingHouse.Proofs.Floor.Remembered
import ClearingHouse.Proofs.Hall.Moved
import ClearingHouse.Proofs.Clientele.Basic
import ClearingHouse.Proofs.Clientele.Sound
import ClearingHouse.Proofs.Clientele.Verdict
import ClearingHouse.Proofs.Outbox.Basic
import ClearingHouse.Proofs.Outbox.Offline
import ClearingHouse.Proofs.Outbox.Faithful
import ClearingHouse.Proofs.Registrar.Final
import ClearingHouse.Proofs.Amount.Digits
import ClearingHouse.Proofs.Amount.Numeral
import ClearingHouse.Proofs.Amount.Rounding
import ClearingHouse.Proofs.Amount.Reading
import ClearingHouse.Proofs.Amount.Exact
import ClearingHouse.Proofs.Amount.Written
import ClearingHouse.Proofs.Json.Reads
import ClearingHouse.Proofs.Json.Records
import ClearingHouse.Proofs.Message.Lawful
import ClearingHouse.Proofs.Message.Envelope
import ClearingHouse.Proofs.Remote.Address
import ClearingHouse.Proofs.Remote.Failures
import ClearingHouse.Proofs.Remote.Agreement
import ClearingHouse.Proofs.Office.Basic
import ClearingHouse.Proofs.Office.Traceless
import ClearingHouse.Proofs.Office.Repeated
import ClearingHouse.Proofs.Delivery
import ClearingHouse.Proofs.Message.RoundTrip
import ClearingHouse.Proofs.Amount.Conversion
import ClearingHouse.Proofs.Pursuit.Basic
import ClearingHouse.Proofs.Pursuit.Bounded
import ClearingHouse.Proofs.Identity.Lifetime
import ClearingHouse.Proofs.Opening.Faithful
