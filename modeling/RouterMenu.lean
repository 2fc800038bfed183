import RouterMenu.Cli.Completion
import RouterMenu.Cli.Console
import RouterMenu.Cli.Disk
import RouterMenu.Cli.Failure
import RouterMenu.Cli.Invocation
import RouterMenu.Cli.Level
import RouterMenu.Cli.Main
import RouterMenu.Cli.MenuVerb
import RouterMenu.Cli.Parameter
import RouterMenu.Cli.Plan
import RouterMenu.Cli.SettingsVerb
import RouterMenu.Cli.Socket
import RouterMenu.Cli.Target
import RouterMenu.Client.Dialogue
import RouterMenu.Client.Error
import RouterMenu.Client.Operations
import RouterMenu.Decimal.Read
import RouterMenu.Decimal.Shortest
import RouterMenu.Document.Basic
import RouterMenu.Document.Json
import RouterMenu.Document.Yaml
import RouterMenu.Gateway.Address
import RouterMenu.Gateway.Answer
import RouterMenu.Gateway.Connection
import RouterMenu.Gateway.Device
import RouterMenu.Gateway.Error
import RouterMenu.Gateway.Inbox
import RouterMenu.Gateway.Network
import RouterMenu.Gateway.Session
import RouterMenu.Gateway.Sharing
import RouterMenu.Gateway.Tape
import RouterMenu.Json.Cursor
import RouterMenu.Json.Number
import RouterMenu.Json.Record
import RouterMenu.Json.Skip
import RouterMenu.Json.Text
import RouterMenu.Menu.Addressing
import RouterMenu.Menu.Automation
import RouterMenu.Menu.Basic
import RouterMenu.Menu.Catalog
import RouterMenu.Menu.Firewall
import RouterMenu.Menu.Links
import RouterMenu.Menu.Tunnels
import RouterMenu.Record.Cells
import RouterMenu.Record.DecodeError
import RouterMenu.Record.Duration
import RouterMenu.Record.Field
import RouterMenu.Record.Value
import RouterMenu.Render.Grid
import RouterMenu.Render.Output
import RouterMenu.Settings.Basic
import RouterMenu.Settings.Choice
import RouterMenu.Settings.Document
import RouterMenu.Settings.Environment
import RouterMenu.Settings.Error
import RouterMenu.Settings.Extract
import RouterMenu.Settings.Host
import RouterMenu.Settings.Load
import RouterMenu.Settings.Node
import RouterMenu.Settings.Writer
import RouterMenu.Text.Blank
import RouterMenu.Text.CharRanges
import RouterMenu.Text.ColumnTables
import RouterMenu.Text.Columns
import RouterMenu.Text.Combining
import RouterMenu.Text.Cut
import RouterMenu.Text.Numeral
import RouterMenu.Text.Quoted
import RouterMenu.Text.Unprintable
import RouterMenu.Text.Utf8
import RouterMenu.Toml.Moment
import RouterMenu.Toml.Number
import RouterMenu.Toml.Reader
import RouterMenu.Toml.Table
import RouterMenu.Toml.Text
import RouterMenu.Toml.Writer
import RouterMenu.Trust.Authorities
import RouterMenu.Trust.Base64
import RouterMenu.Trust.Der
import RouterMenu.Trust.Pem
import RouterMenu.Wire.Command
import RouterMenu.Wire.Framing
import RouterMenu.Wire.Sentence
import RouterMenu.Wire.WordLength
import RouterMenu.Proofs.Wire.Framing
import RouterMenu.Proofs.Wire.Delivery
import RouterMenu.Proofs.Wire.RoundTrip
import RouterMenu.Proofs.Text.Numeral
import RouterMenu.Proofs.Wire.Sentence
import RouterMenu.Proofs.Record.Scalar
import RouterMenu.Proofs.Record.RoundTrip
import RouterMenu.Proofs.Gateway.Exchange
import RouterMenu.Proofs.Gateway.Turns
import RouterMenu.Proofs.Gateway.Status
import RouterMenu.Proofs.Gateway.Ledger
import RouterMenu.Proofs.Gateway.OwnAnswer
import RouterMenu.Proofs.Gateway.Order
import RouterMenu.Proofs.Gateway.Rest
import RouterMenu.Proofs.Gateway.Serial
import RouterMenu.Proofs.Record.Stability
import RouterMenu.Proofs.Client.Traffic
import RouterMenu.Proofs.Client.Selection
import RouterMenu.Proofs.Client.OneSentence
import RouterMenu.Proofs.Record.Change
import RouterMenu.Proofs.Wire.Insertion
import RouterMenu.Proofs.Client.ReadBack
import RouterMenu.Proofs.Cli.Precedence
import RouterMenu.Proofs.Gateway.Network
import RouterMenu.Proofs.Cli.Restraint
import RouterMenu.Proofs.Json.Scalar
import RouterMenu.Proofs.Json.RoundTrip
import RouterMenu.Proofs.Cli.Vouching
import RouterMenu.Proofs.Settings.Layers
import RouterMenu.Proofs.Settings.Verbatim
import RouterMenu.Proofs.Settings.Variables
import RouterMenu.Proofs.Cli.Credentials
import RouterMenu.Proofs.Settings.Extract
import RouterMenu.Proofs.Toml.Text
import RouterMenu.Proofs.Toml.Value
import RouterMenu.Proofs.Toml.File
import RouterMenu.Proofs.Settings.Items
import RouterMenu.Proofs.Settings.Saved
import RouterMenu.Proofs.Settings.Load
import RouterMenu.Proofs.Cli.DefaultProfile
import RouterMenu.Proofs.Gateway.Lifecycle
import RouterMenu.Proofs.Text.Utf8
import RouterMenu.Proofs.Wire.Grammar
import RouterMenu.Proofs.Gateway.Outcome
import RouterMenu.Proofs.Cli.OutputFormat
import RouterMenu.Proofs.Record.Quantities
import RouterMenu.Proofs.Record.Duration
import RouterMenu.Proofs.Record.Faults
import RouterMenu.Proofs.Record.Rearrangement
import RouterMenu.Proofs.Client.Lookup
import RouterMenu.Proofs.Wire.History
import RouterMenu.Proofs.Gateway.Login
import RouterMenu.Proofs.Gateway.Oversized
import RouterMenu.Proofs.Cli.Untouched
import RouterMenu.Proofs.Gateway.Address
import RouterMenu.Proofs.Wire.Display
import RouterMenu.Proofs.Record.Places
import RouterMenu.Proofs.Render.Table
import RouterMenu.Proofs.Render.Terminal
import RouterMenu.Proofs.Render.Detail
import RouterMenu.Proofs.Cli.Diagnosis
