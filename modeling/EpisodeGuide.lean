import EpisodeGuide.Auth
import EpisodeGuide.Binary64.Basic
import EpisodeGuide.Binary64.Decimal
import EpisodeGuide.Cache.Basic
import EpisodeGuide.Cache.Cell
import EpisodeGuide.Cache.Database
import EpisodeGuide.Cache.Error
import EpisodeGuide.Cache.Location
import EpisodeGuide.Cache.Open
import EpisodeGuide.Cache.Table
import EpisodeGuide.Catalog.Basic
import EpisodeGuide.Catalog.Open
import EpisodeGuide.Catalog.Source
import EpisodeGuide.Client.Error
import EpisodeGuide.Client.Fetch
import EpisodeGuide.Client.Session
import EpisodeGuide.CommandLine.Arguments
import EpisodeGuide.CommandLine.Run
import EpisodeGuide.Config.Basic
import EpisodeGuide.Config.Load
import EpisodeGuide.Config.Location
import EpisodeGuide.Episode.Basic
import EpisodeGuide.Episode.Record
import EpisodeGuide.Files.Path
import EpisodeGuide.Files.Tree
import EpisodeGuide.Http.Message
import EpisodeGuide.Http.Script
import EpisodeGuide.Http.Wire
import EpisodeGuide.Json.Document
import EpisodeGuide.Json.Fields
import EpisodeGuide.Json.Lexeme
import EpisodeGuide.Json.Printer
import EpisodeGuide.Json.Value
import EpisodeGuide.Log
import EpisodeGuide.Main
import EpisodeGuide.Proofs.Exchange.Held
import EpisodeGuide.Proofs.Exchange.Recording
import EpisodeGuide.Proofs.History
import EpisodeGuide.Proofs.Session.Derivation
import EpisodeGuide.Proofs.Session.Order
import EpisodeGuide.Proofs.Session.Renewal
import EpisodeGuide.Provider.Entry
import EpisodeGuide.Provider.LoginReply
import EpisodeGuide.Provider.Page
import EpisodeGuide.Text.Base64
import EpisodeGuide.Text.Blank
import EpisodeGuide.Text.Digit
import EpisodeGuide.Text.Utf8
import EpisodeGuide.Toml.Document
import EpisodeGuide.Toml.Moment
import EpisodeGuide.Toml.Node
import EpisodeGuide.Toml.Number
import EpisodeGuide.Toml.Quoted
import EpisodeGuide.Unicode.BidiClass
import EpisodeGuide.Unicode.CombiningClass
import EpisodeGuide.Unicode.Composition
import EpisodeGuide.Unicode.JoiningType
import EpisodeGuide.Unicode.Mapping
import EpisodeGuide.Unicode.Mark
import EpisodeGuide.Unicode.Normalization
import EpisodeGuide.Unicode.Permitted
import EpisodeGuide.Unicode.Range
import EpisodeGuide.Url.Basic
import EpisodeGuide.Url.Domain
import EpisodeGuide.Url.Form
import EpisodeGuide.Url.Ipv4
import EpisodeGuide.Url.Ipv6
import EpisodeGuide.Url.Path
import EpisodeGuide.Url.Percent
import EpisodeGuide.Url.Punycode
import EpisodeGuide.Url.Reader
import EpisodeGuide.Word
import EpisodeGuide.Proofs.Session.Lifetime
import EpisodeGuide.Proofs.Session.Pages
import EpisodeGuide.Proofs.Session.Walk
import EpisodeGuide.Proofs.Cache.Reopening
import EpisodeGuide.Proofs.Cache.Shelf
import EpisodeGuide.Proofs.Cache.Refinement
import EpisodeGuide.Proofs.Session.Execution
import EpisodeGuide.Proofs.Session.Interruption
import EpisodeGuide.Proofs.Cache.Change
import EpisodeGuide.Proofs.Cache.Transaction
import EpisodeGuide.Proofs.Catalog.Lookup
import EpisodeGuide.Proofs.Catalog.Degradation
import EpisodeGuide.Proofs.Catalog.Truncation
import EpisodeGuide.Proofs.Catalog.Warm
import EpisodeGuide.Proofs.Catalog.Freshness
import EpisodeGuide.Proofs.Catalog.Silence
import EpisodeGuide.Proofs.Url.Percent
import EpisodeGuide.Proofs.Url.Path
import EpisodeGuide.Proofs.Client.Listing
import EpisodeGuide.Proofs.Json.Lexeme
import EpisodeGuide.Proofs.Json.Grammar
import EpisodeGuide.Proofs.Json.Kept
import EpisodeGuide.Proofs.Provider.Replacement
import EpisodeGuide.Proofs.Session.Cutoff
import EpisodeGuide.Proofs.Session.Effort
import EpisodeGuide.Proofs.Client.Login
import EpisodeGuide.Proofs.Client.Origin
import EpisodeGuide.Proofs.Json.Printing
import EpisodeGuide.Proofs.Episode.Record
import EpisodeGuide.Proofs.CommandLine.Listing
import EpisodeGuide.Proofs.Cache.Stored
import EpisodeGuide.Proofs.CommandLine.Clearing
import EpisodeGuide.Proofs.Session.Equations
import EpisodeGuide.Proofs.Exchange.Simulation
import EpisodeGuide.Proofs.Catalog.Lockstep
import EpisodeGuide.Proofs.Exchange.Ledger
import EpisodeGuide.Proofs.Catalog.Secrecy
import EpisodeGuide.Proofs.Text.Utf8
import EpisodeGuide.Proofs.Url.Form
import EpisodeGuide.Proofs.Url.Loopback
import EpisodeGuide.Proofs.Exchange.Wire
import EpisodeGuide.Proofs.Catalog.StandIn
import EpisodeGuide.Proofs.Provider.Entry
import EpisodeGuide.Proofs.Session.Onward
import EpisodeGuide.Proofs.Binary64.Value
import EpisodeGuide.Proofs.Cache.Ordering
import EpisodeGuide.Proofs.Cache.Reading
import EpisodeGuide.Proofs.Text.Blank
import EpisodeGuide.Proofs.Session.Settings
import EpisodeGuide.Proofs.Catalog.Visits
import EpisodeGuide.Proofs.Catalog.Keyless
import EpisodeGuide.Proofs.Config.Key
import EpisodeGuide.Proofs.Provider.Number
import EpisodeGuide.Proofs.Json.Members
import EpisodeGuide.Proofs.Provider.Envelope
import EpisodeGuide.Proofs.Provider.Description
import EpisodeGuide.Proofs.Session.Acceptance
import EpisodeGuide.Proofs.Toml.Gap
import EpisodeGuide.Proofs.Toml.Quoted
import EpisodeGuide.Proofs.Toml.Number
import EpisodeGuide.Proofs.Toml.Moment
import EpisodeGuide.Proofs.Toml.Key
import EpisodeGuide.Proofs.Toml.Value
import EpisodeGuide.Proofs.Toml.Document
import EpisodeGuide.Proofs.Config.Partial
import EpisodeGuide.Proofs.Json.RoundTrip
import EpisodeGuide.Proofs.Exchange.Delivery
