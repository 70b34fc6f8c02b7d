import Courier.Base64
import Courier.Client
import Courier.Config
import Courier.Config.Reader
import Courier.Content
import Courier.Cookie
import Courier.Correlation
import Courier.Descriptor
import Courier.Draft
import Courier.Duration
import Courier.Executor
import Courier.Failure
import Courier.Feed
import Courier.Field
import Courier.Fields
import Courier.Form
import Courier.Frame
import Courier.HttpDate
import Courier.Inspect
import Courier.Inspect.Hidden
import Courier.Json.Binary64
import Courier.Json.Reader
import Courier.Json.Value
import Courier.Metrics
import Courier.Octets
import Courier.Peer
import Courier.Proofs.Authority
import Courier.Proofs.Base64
import Courier.Proofs.Client
import Courier.Proofs.Config
import Courier.Proofs.Cookie
import Courier.Proofs.Crowd
import Courier.Proofs.Descriptor
import Courier.Proofs.Draft.Calls
import Courier.Proofs.Draft.Credentials
import Courier.Proofs.Draft.Framing
import Courier.Proofs.Draft.Query
import Courier.Proofs.Draft.Refusal
import Courier.Proofs.Draft.Request
import Courier.Proofs.Draft.Secrecy
import Courier.Proofs.Draft.Target
import Courier.Proofs.Executor.Acquisitions
import Courier.Proofs.Executor.Attempt
import Courier.Proofs.Executor.Causes
import Courier.Proofs.Executor.Connections
import Courier.Proofs.Executor.Dependence
import Courier.Proofs.Executor.Errand
import Courier.Proofs.Executor.Failures
import Courier.Proofs.Executor.Legs
import Courier.Proofs.Executor.Records
import Courier.Proofs.Executor.Resending
import Courier.Proofs.Executor.Run
import Courier.Proofs.Executor.Stages
import Courier.Proofs.Executor.Success
import Courier.Proofs.Executor.Transcript
import Courier.Proofs.Failure
import Courier.Proofs.Feed
import Courier.Proofs.Field
import Courier.Proofs.Fields
import Courier.Proofs.Fields.Grouping
import Courier.Proofs.Fields.Multimap
import Courier.Proofs.Fields.Replay
import Courier.Proofs.Fields.Veil
import Courier.Proofs.Form
import Courier.Proofs.Frame
import Courier.Proofs.Octets
import Courier.Proofs.Peer
import Courier.Proofs.Peer.Record
import Courier.Proofs.Peer.Switchboard
import Courier.Proofs.Redirect.Absolute
import Courier.Proofs.Redirect.Authority
import Courier.Proofs.Redirect.Chain
import Courier.Proofs.Redirect.Credentials
import Courier.Proofs.Redirect.Entries
import Courier.Proofs.Redirect.Hop
import Courier.Proofs.Redirect.Host
import Courier.Proofs.Redirect.Location
import Courier.Proofs.Redirect.SameSite
import Courier.Proofs.Redirect.Targets
import Courier.Proofs.Response
import Courier.Proofs.Response.Trailers
import Courier.Proofs.Session
import Courier.Proofs.Text
import Courier.Proofs.Uri
import Courier.Proofs.Uri.Scheme
import Courier.Proofs.Web.Authority
import Courier.Proofs.Web.Host
import Courier.Proofs.Web.Kinds
import Courier.Proofs.Web.Paths
import Courier.Proofs.Web.Reference
import Courier.Proofs.Web.Site
import Courier.Proofs.Web.Target
import Courier.Proofs.Web.Written
import Courier.Proofs.Web.WrittenHost
import Courier.Proofs.Web.WrittenPath
import Courier.Protocol
import Courier.Redirect.Decision
import Courier.Redirect.Hop
import Courier.Redirect.Limit
import Courier.Redirect.Location
import Courier.Request
import Courier.Response
import Courier.Runs
import Courier.Text
import Courier.Uri
import Courier.Web.Address
import Courier.Web.Host
import Courier.Web.Label
import Courier.Web.Label.Bootstring
import Courier.Web.Label.Composition
import Courier.Web.Label.Direction
import Courier.Web.Label.Joining
import Courier.Web.Label.Mark
import Courier.Web.Label.Permitted
import Courier.Web.Percent
import Courier.Web.Reference
import Courier.Metrics.Cells
import Courier.Proofs.Metrics
import Courier.Proofs.Calendar
import Courier.Proofs.HttpDate
import Courier.Proofs.Json.Grammar
import Courier.Proofs.Json.Reading
import Courier.Proofs.Json.Writing
import Courier.Proofs.Config.Reading
