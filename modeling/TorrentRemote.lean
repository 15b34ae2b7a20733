import TorrentRemote.Client.Basic
import TorrentRemote.Client.Listing
import TorrentRemote.Client.Mutation
import TorrentRemote.Client.Remote
import TorrentRemote.Client.Run
import TorrentRemote.Client.Settings
import TorrentRemote.Config.Basic
import TorrentRemote.Config.Reader
import TorrentRemote.Daemon.Call
import TorrentRemote.Daemon.Conversion
import TorrentRemote.Daemon.Record
import TorrentRemote.Display.Icon
import TorrentRemote.Display.Size
import TorrentRemote.Display.Table
import TorrentRemote.Error
import TorrentRemote.Interaction
import TorrentRemote.Json.Basic
import TorrentRemote.Json.Fields
import TorrentRemote.Json.Parser
import TorrentRemote.Json.Printer
import TorrentRemote.Json.Raw
import TorrentRemote.Number.Binary64
import TorrentRemote.Number.Rounding
import TorrentRemote.Proofs.Client.Addition
import TorrentRemote.Proofs.Client.Caching
import TorrentRemote.Proofs.Client.Calls
import TorrentRemote.Proofs.Client.Concurrency
import TorrentRemote.Proofs.Client.Deletion
import TorrentRemote.Proofs.Client.DisplayName
import TorrentRemote.Proofs.Client.Exclusion
import TorrentRemote.Proofs.Client.Failure
import TorrentRemote.Proofs.Client.Freshness
import TorrentRemote.Proofs.Client.LimitsWrittenBack
import TorrentRemote.Proofs.Client.Modification
import TorrentRemote.Proofs.Client.Operation
import TorrentRemote.Proofs.Client.Protocol
import TorrentRemote.Proofs.Client.Retry
import TorrentRemote.Proofs.Client.Sequential
import TorrentRemote.Proofs.Client.Serialization
import TorrentRemote.Proofs.Client.Settings
import TorrentRemote.Proofs.Config.Reading
import TorrentRemote.Proofs.Config.Validation
import TorrentRemote.Proofs.Creation
import TorrentRemote.Proofs.Daemon.Progress
import TorrentRemote.Proofs.Daemon.Settings
import TorrentRemote.Proofs.Display.Filter
import TorrentRemote.Proofs.Display.Lines
import TorrentRemote.Proofs.Display.NameColumn
import TorrentRemote.Proofs.Display.Size
import TorrentRemote.Proofs.Display.Truncation
import TorrentRemote.Proofs.Json.Fields
import TorrentRemote.Proofs.Json.Grammar
import TorrentRemote.Proofs.Json.ReadBack
import TorrentRemote.Proofs.Json.Token
import TorrentRemote.Proofs.Lookup
import TorrentRemote.Proofs.Number.Rounding
import TorrentRemote.Proofs.Registry
import TorrentRemote.Proofs.Rpc.Handshake
import TorrentRemote.Proofs.Rpc.Host
import TorrentRemote.Proofs.Rpc.Request
import TorrentRemote.Proofs.Rpc.Session
import TorrentRemote.Proofs.Secrecy
import TorrentRemote.Proofs.Setting
import TorrentRemote.Proofs.Text.Base64
import TorrentRemote.Proofs.Text.Columns
import TorrentRemote.Proofs.Text.Decimal
import TorrentRemote.Proofs.Text.Lowercase
import TorrentRemote.Proofs.Text.Numeral
import TorrentRemote.Proofs.Text.Utf8
import TorrentRemote.Proofs.Torrent.Canonical
import TorrentRemote.Proofs.Torrent.Grammar
import TorrentRemote.Proofs.Torrent.Labels
import TorrentRemote.Proofs.Torrent.Name
import TorrentRemote.Proofs.Torrent.Relabelling
import TorrentRemote.Proofs.Torrent.Rewriting
import TorrentRemote.Proofs.Torrent.SiteTag
import TorrentRemote.Proofs.Torrent.SpeedLimit
import TorrentRemote.Registry
import TorrentRemote.Rpc.Exchange
import TorrentRemote.Rpc.Handshake
import TorrentRemote.Rpc.Request
import TorrentRemote.Rpc.Response
import TorrentRemote.Rpc.Session
import TorrentRemote.Setting
import TorrentRemote.Text.Ascii
import TorrentRemote.Text.Base64
import TorrentRemote.Text.Blank
import TorrentRemote.Text.Columns
import TorrentRemote.Text.Decimal
import TorrentRemote.Text.Diagnostic
import TorrentRemote.Text.Lowercase
import TorrentRemote.Text.Quoted
import TorrentRemote.Text.Utf8
import TorrentRemote.Toml.DateTime
import TorrentRemote.Toml.Number
import TorrentRemote.Toml.Parser
import TorrentRemote.Toml.Text
import TorrentRemote.Toml.Tree
import TorrentRemote.Toml.Value
import TorrentRemote.Torrent.Basic
import TorrentRemote.Torrent.Labels
import TorrentRemote.Torrent.Name
import TorrentRemote.Torrent.SideData
import TorrentRemote.Torrent.SpeedLimit
import TorrentRemote.Torrent.State
import TorrentRemote.Unicode.CaseMapping
import TorrentRemote.Unicode.DecompositionTable
import TorrentRemote.Unicode.Direction
import TorrentRemote.Unicode.Emoji
import TorrentRemote.Unicode.GraphemeExtend
import TorrentRemote.Unicode.IdnaTable
import TorrentRemote.Unicode.Joining
import TorrentRemote.Unicode.Marks
import TorrentRemote.Unicode.Normalization
import TorrentRemote.Unicode.Ranges
import TorrentRemote.Unicode.TableText
import TorrentRemote.Unicode.Unprintable
import TorrentRemote.Unicode.Width
import TorrentRemote.Url.Address
import TorrentRemote.Url.Basic
import TorrentRemote.Url.Domain
import TorrentRemote.Url.Parser
import TorrentRemote.Url.Percent
import TorrentRemote.Url.Punycode
import TorrentRemote.Wire.Command
import TorrentRemote.Wire.Connection
import TorrentRemote.Wire.Response
