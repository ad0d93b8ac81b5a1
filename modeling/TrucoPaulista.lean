import TrucoPaulista.Action
import TrucoPaulista.Archive
import TrucoPaulista.Card
import TrucoPaulista.Card.Code
import TrucoPaulista.Command
import TrucoPaulista.CommandLine
import TrucoPaulista.Comparison
import TrucoPaulista.Crowd
import TrucoPaulista.Dict
import TrucoPaulista.Event
import TrucoPaulista.Floor
import TrucoPaulista.GameError
import TrucoPaulista.Hall
import TrucoPaulista.Hand
import TrucoPaulista.Json
import TrucoPaulista.Json.Field
import TrucoPaulista.Json.Lexeme
import TrucoPaulista.Json.Number
import TrucoPaulista.Json.Reader
import TrucoPaulista.Lobby
import TrucoPaulista.Main
import TrucoPaulista.Match
import TrucoPaulista.Proofs.Acceptance
import TrucoPaulista.Proofs.Action
import TrucoPaulista.Proofs.Admission
import TrucoPaulista.Proofs.Alone
import TrucoPaulista.Proofs.Announce
import TrucoPaulista.Proofs.Answers
import TrucoPaulista.Proofs.Apart
import TrucoPaulista.Proofs.Attendance
import TrucoPaulista.Proofs.Audience
import TrucoPaulista.Proofs.BestOfThree
import TrucoPaulista.Proofs.Caller
import TrucoPaulista.Proofs.Calls
import TrucoPaulista.Proofs.CardCode
import TrucoPaulista.Proofs.CardWords
import TrucoPaulista.Proofs.Commute
import TrucoPaulista.Proofs.Course
import TrucoPaulista.Proofs.Crowd
import TrucoPaulista.Proofs.Delivery
import TrucoPaulista.Proofs.Dict
import TrucoPaulista.Proofs.Discretion
import TrucoPaulista.Proofs.Exchange
import TrucoPaulista.Proofs.Faithful
import TrucoPaulista.Proofs.Ground
import TrucoPaulista.Proofs.Guests
import TrucoPaulista.Proofs.Hand
import TrucoPaulista.Proofs.Handled
import TrucoPaulista.Proofs.Ledger
import TrucoPaulista.Proofs.LifeCycle
import TrucoPaulista.Proofs.Likeness
import TrucoPaulista.Proofs.LikenessHall
import TrucoPaulista.Proofs.LikenessServer
import TrucoPaulista.Proofs.Match
import TrucoPaulista.Proofs.Mirror
import TrucoPaulista.Proofs.News
import TrucoPaulista.Proofs.Numbering
import TrucoPaulista.Proofs.Padding
import TrucoPaulista.Proofs.Picture
import TrucoPaulista.Proofs.Queues
import TrucoPaulista.Proofs.Refusals
import TrucoPaulista.Proofs.Refused
import TrucoPaulista.Proofs.Replay
import TrucoPaulista.Proofs.Restore
import TrucoPaulista.Proofs.Room
import TrucoPaulista.Proofs.Rotation
import TrucoPaulista.Proofs.RoundTrip
import TrucoPaulista.Proofs.Seating
import TrucoPaulista.Proofs.Service
import TrucoPaulista.Proofs.Session
import TrucoPaulista.Proofs.Stall
import TrucoPaulista.Proofs.StoredHand
import TrucoPaulista.Proofs.StoredJson
import TrucoPaulista.Proofs.Strangers
import TrucoPaulista.Proofs.Tally
import TrucoPaulista.Proofs.Tenure
import TrucoPaulista.Proofs.Turn
import TrucoPaulista.Proofs.UpperCase
import TrucoPaulista.Proofs.Variables
import TrucoPaulista.Proofs.Visits
import TrucoPaulista.Proofs.Winner
import TrucoPaulista.Proofs.WireForms
import TrucoPaulista.Queue
import TrucoPaulista.RateLimit
import TrucoPaulista.Refusal
import TrucoPaulista.Request
import TrucoPaulista.Room
import TrucoPaulista.RoomError
import TrucoPaulista.Round
import TrucoPaulista.Score
import TrucoPaulista.Seat
import TrucoPaulista.Server
import TrucoPaulista.Service
import TrucoPaulista.Settings
import TrucoPaulista.Settings.Address
import TrucoPaulista.Settings.Number
import TrucoPaulista.Side
import TrucoPaulista.Snapshot
import TrucoPaulista.Table
import TrucoPaulista.Text.Blank
import TrucoPaulista.Text.CaseRun
import TrucoPaulista.Text.Lower
import TrucoPaulista.Text.Quoted
import TrucoPaulista.Text.Upper
import TrucoPaulista.Text.Utf8
import TrucoPaulista.Token
import TrucoPaulista.Token.Sha256
import TrucoPaulista.Web.MediaType
import TrucoPaulista.Web.Message
import TrucoPaulista.Web.Percent
import TrucoPaulista.Web.Router
import TrucoPaulista.Web.Status
import TrucoPaulista.Web.Upgrade
import TrucoPaulista.Wire.Command
import TrucoPaulista.Wire.Event
import TrucoPaulista.Wire.Game
import TrucoPaulista.Wire.Room
import TrucoPaulista.Wire.Snapshot
import TrucoPaulista.Wire.View
