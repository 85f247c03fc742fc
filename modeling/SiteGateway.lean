import SiteGateway.Text.Basic
import SiteGateway.Text.Blank
import SiteGateway.Text.Quoted
import SiteGateway.Text.Ranges
import SiteGateway.Text.Composition
import SiteGateway.Text.Utf8
import SiteGateway.Text.Lowercase
import SiteGateway.Percent
import SiteGateway.Url.Punycode
import SiteGateway.Url.DomainTable
import SiteGateway.Url.Parser
import SiteGateway.Http.Target
import SiteGateway.Http.Headers
import SiteGateway.Route.Table
import SiteGateway.Proxy.HopByHop
import SiteGateway.Proxy.TargetUrl
import SiteGateway.Time.MailDate
import SiteGateway.Http.Message
import SiteGateway.Files.Tree
import SiteGateway.Html.Escape
import SiteGateway.Files.Name
import SiteGateway.Site.Root
import SiteGateway.Site.Listing
import SiteGateway.Site.Freshness
import SiteGateway.Site.InitialFile
import SiteGateway.Http.MediaType
import SiteGateway.Http.ByteRange
import SiteGateway.Site.Pipeline
import SiteGateway.Http.Peer
import SiteGateway.Access.Log
import SiteGateway.Server.Reply
import SiteGateway.Proxy.Offline
import SiteGateway.Toml.Document
import SiteGateway.Settings.CommandLine
import SiteGateway.Settings.Resolve
import SiteGateway.Html.Entity
import SiteGateway.Markdown.Character
import SiteGateway.Markdown.Escape
import SiteGateway.Markdown.Link
import SiteGateway.Markdown.Tag
import SiteGateway.Markdown.Inline.Basic
import SiteGateway.Markdown.Inline.Emphasis
import SiteGateway.Markdown.Inline.Scan
import SiteGateway.Markdown.Line
import SiteGateway.Markdown.Block.Basic
import SiteGateway.Markdown.Block.Container
import SiteGateway.Markdown.Block.Start
import SiteGateway.Markdown.Block.Leaf
import SiteGateway.Markdown.Document
import SiteGateway.Markdown.Render
import SiteGateway.Server.Shutdown
import SiteGateway.Server.Connections
import SiteGateway.Server.Admission
import SiteGateway.Proxy.Relay
import SiteGateway.Proxy.PipedRelay
import SiteGateway.Text.Base64
import SiteGateway.Tls.Pem
import SiteGateway.Tls.Der
import SiteGateway.Tls.Material
import SiteGateway.Access.Filter
import SiteGateway.Access.Line
import SiteGateway.Server.Startup
import SiteGateway.Server.Process
import SiteGateway.Main
import SiteGateway.Proofs.Except
import SiteGateway.Proofs.Route.Built
import SiteGateway.Proofs.Files.Walk
import SiteGateway.Proofs.Site.Policy
import SiteGateway.Proofs.Percent
import SiteGateway.Proofs.Site.ListingBan
import SiteGateway.Proofs.Route.Selection
import SiteGateway.Proofs.Text.Split
import SiteGateway.Proofs.Url.Path
import SiteGateway.Proofs.Proxy.TargetPath
import SiteGateway.Proofs.Files.Path
import SiteGateway.Proofs.Settings.InitialFile
import SiteGateway.Proofs.Settings.Resolve
import SiteGateway.Proofs.Site.InitialFile
import SiteGateway.Proofs.Proxy.Relay
import SiteGateway.Proofs.Proxy.Tunnel
import SiteGateway.Proofs.Site.Root
import SiteGateway.Proofs.Files.Linkless
import SiteGateway.Proofs.Site.Boundary
import SiteGateway.Proofs.Server.Permits
import SiteGateway.Server.Service
import SiteGateway.Proofs.Server.Service
import SiteGateway.Proofs.Access.Log
import SiteGateway.Proofs.Proxy.Forward
import SiteGateway.Proofs.Proxy.Transparent
import SiteGateway.Proofs.Count
import SiteGateway.Proofs.Sort
import SiteGateway.Proofs.Route.Building
import SiteGateway.Proofs.Server.Trackers
import SiteGateway.Proofs.Server.Shutdown
import SiteGateway.Proofs.Proxy.ForwardedFor
import SiteGateway.Proofs.Text.Trim
import SiteGateway.Proofs.Route.Mappings
import SiteGateway.Proofs.Route.Pair
import SiteGateway.Proofs.Html.Escape
import SiteGateway.Proofs.Site.ListingPage
import SiteGateway.Proofs.Site.ListingLink
import SiteGateway.Proofs.Site.CleanSegments
import SiteGateway.Proofs.Site.InitialRewrite
import SiteGateway.Proofs.Text.Order
import SiteGateway.Proofs.Files.Rearranged
import SiteGateway.Proofs.Site.DirectoryContent
import SiteGateway.Proofs.Text.Digits
import SiteGateway.Proofs.Time.Calendar
import SiteGateway.Proofs.Time.HttpDate
import SiteGateway.Proofs.Time.MailDate
import SiteGateway.Proofs.Site.Freshness
import SiteGateway.Proofs.Site.Conditional
import SiteGateway.Proofs.Text.Ascii
import SiteGateway.Proofs.Proxy.HopByHop
import SiteGateway.Proofs.Site.DirectoryIndex
import SiteGateway.Proofs.Text.CodePoints
import SiteGateway.Proofs.Text.Composition
import SiteGateway.Proofs.Url.DomainTable
import SiteGateway.Proofs.Url.Punycode
import SiteGateway.Proofs.Url.Domain
import SiteGateway.Proofs.Url.Address
import SiteGateway.Proofs.Url.Host
import SiteGateway.Proofs.Url.Authority
import SiteGateway.Proofs.Route.Backend
import SiteGateway.Proofs.Http.Target
import SiteGateway.Proofs.Proxy.Upgrade
import SiteGateway.Proofs.Proxy.TargetQuery
import SiteGateway.Proofs.Proxy.UpgradeToken
import SiteGateway.Proofs.Settings.Written
import SiteGateway.Proofs.Settings.Checks
import SiteGateway.Proofs.Settings.Override
import SiteGateway.Proofs.Route.WrittenAuthority
import SiteGateway.Proofs.Access.Line
