import Standings.Access.Claims
import Standings.Access.Scope
import Standings.Access.Sha256
import Standings.Access.Token
import Standings.Bisect
import Standings.Board
import Standings.Calendar.Date
import Standings.Calendar.Instant
import Standings.Calendar.Offset
import Standings.Calendar.Place
import Standings.Calendar.Timestamp
import Standings.Calendar.Zone
import Standings.Cursor
import Standings.Filter
import Standings.Gateway.Query
import Standings.Gateway.Refusal
import Standings.Gateway.Router
import Standings.Gateway.Session
import Standings.Gateway.Target
import Standings.Json.Lapse
import Standings.Json.Magnitude
import Standings.Json.Record
import Standings.Json.Token
import Standings.Json.Value
import Standings.Ledger.Event
import Standings.Ledger.Service
import Standings.Ledger.Tally
import Standings.Main
import Standings.Page.Arguments
import Standings.Page.Connection
import Standings.Proofs.BackOff
import Standings.Proofs.Base64Url
import Standings.Proofs.Bearer
import Standings.Proofs.Bounds
import Standings.Proofs.Checks
import Standings.Proofs.Cursor
import Standings.Proofs.DayStart
import Standings.Proofs.FirstOfDate
import Standings.Proofs.FixedOffset
import Standings.Proofs.Gate
import Standings.Proofs.Json.Record
import Standings.Proofs.Json.RoundTrip
import Standings.Proofs.Json.Scan
import Standings.Proofs.Leaderboard
import Standings.Proofs.Midnight
import Standings.Proofs.OneGrant
import Standings.Proofs.Outage
import Standings.Proofs.OwnWindow
import Standings.Proofs.Partition
import Standings.Proofs.PointTotals
import Standings.Proofs.Position
import Standings.Proofs.Query
import Standings.Proofs.Ranking
import Standings.Proofs.Records
import Standings.Proofs.Relevance
import Standings.Proofs.Return
import Standings.Proofs.Runs
import Standings.Proofs.Scope
import Standings.Proofs.Selection
import Standings.Proofs.Settings
import Standings.Proofs.SigningKey
import Standings.Proofs.Tiling
import Standings.Proofs.Timestamp
import Standings.Proofs.Walk.Exhaustive
import Standings.Proofs.Walk.Interleaved
import Standings.Proofs.Walk.Page
import Standings.Proofs.Walk.Unsized
import Standings.Proofs.Week
import Standings.Ranking
import Standings.Ranking.Session
import Standings.Ranking.Walk
import Standings.Service.LogFilter
import Standings.Service.LogPattern
import Standings.Service.LogPattern.Atom
import Standings.Service.LogPattern.Bracket
import Standings.Service.Startup
import Standings.Settings
import Standings.Settings.DotEnv
import Standings.Settings.Environment
import Standings.Standing
import Standings.Store.Address
import Standings.Store.Database
import Standings.Store.Fault
import Standings.Store.HostFile
import Standings.Store.Migrate
import Standings.Store.PasswordFile
import Standings.Store.Retry
import Standings.Store.SqlLedger
import Standings.SystemError
import Standings.Text.Alphanumeric
import Standings.Text.Base64Url
import Standings.Text.Blank
import Standings.Text.Canonical
import Standings.Text.Canonical.Classes
import Standings.Text.Canonical.Composites
import Standings.Text.Decimal
import Standings.Text.Domain
import Standings.Text.Domain.Direction
import Standings.Text.Domain.Joining
import Standings.Text.Domain.Mapping
import Standings.Text.FormUrlencoded
import Standings.Text.Hex
import Standings.Text.IpAddress
import Standings.Text.Mark
import Standings.Text.Printable
import Standings.Text.Punycode
import Standings.Text.Quoted
import Standings.Text.Split
import Standings.Text.Table
import Standings.Text.Url
import Standings.Text.Utf8
import Standings.Window
import Standings.Wire
