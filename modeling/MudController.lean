import MudController.Logic.Prog
import MudController.Logic.Interleave
import MudController.Logic.Json
import MudController.Logic.Text
import MudController.Models.Mud
import MudController.Models.Device
import MudController.Models.Firewall
import MudController.Db.Tables
import MudController.Db.Stmt
import MudController.Models.MudJson
import MudController.Services.Config
import MudController.Services.Parser
import MudController.Services.Firewall
import MudController.Services.Mud
import MudController.Routes.Auth
import MudController.Routes.Config
import MudController.Routes.Mud
import MudController.Rpc
import MudController.Filter.Packet
import MudController.Filter.Compile
import MudController.Reference
import MudController.Filter.Verdict
import MudController.Run.Config
import MudController.Secret
import MudController.Db.Schema
import MudController.Run.Mud
import MudController.Run.Device
import MudController.Run.Lease
import MudController.Lease.Identity
import MudController.Heartbeat
import MudController.Refresh
import MudController.Logic.Versioned
import MudController.Version.Configuration
import MudController.Run.Announce
import MudController.Version.Fleet
import MudController.Routes.Device
import MudController.Version.Loads
import MudController.Version.Track
import MudController.Run.Quiet
import MudController.Accounts.Bootstrap
import MudController.Accounts.Grants
import MudController.Accounts.History
import MudController.Approval
import MudController.Filter.Override
import MudController.Identified
import MudController.Lease.Concurrent
import MudController.Logic.JsonText
import MudController.Override
import MudController.Stored
import MudController.Logic.Fallible
import MudController.Services.ParserLoop
import MudController.Profile.Policy
import MudController.Profile.Clauses
import MudController.Profile.Loading
import MudController.Profile.Outdated
import MudController.Lease.Addresses
import MudController.Lease.History
import MudController.Creation
import MudController.Logic.Merge
import MudController.Filter.Merge
import MudController.Filter.Shape
import MudController.Version.Cycle
import MudController.Routes.User
import MudController.Accounts.Committed
import MudController.Accounts.Permissions
import MudController.Things
import MudController.Logic.Loop
import MudController.Logic.Decoder
import MudController.Services.Fetch
import MudController.Profile.Fetching
import MudController.Profile.FetchLimit
import MudController.Logic.Calendar
import MudController.Services.Log
import MudController.LogDates
import MudController.Logic.Base64
import MudController.Services.Acme
import MudController.CertIds
import MudController.Logic.Path
import MudController.Logic.Embedding
import MudController.Db.Backend
import MudController.Models.Token
import MudController.Services.Login
import MudController.Services.UserConfig
import MudController.Services.Room
import MudController.Routes.Token
import MudController.Routes.Session
import MudController.Routes.Management
import MudController.Routes.Room
import MudController.Api
import MudController.Access.Licence
import MudController.Access.Sessions
import MudController.Access.Mediation
import MudController.Access.Provenance
import MudController.Access.Escalation
import MudController.Run.Backend
import MudController.Profile.Pipeline
import MudController.Access.Origin
import MudController.Access.Settings
import MudController.Access.Credentials
import MudController.Access.Admission
import MudController.Access.Rooms
import MudController.Access.Lifetime
import MudController.Certificates
