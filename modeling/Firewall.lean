import Firewall.Audit.Output
import Firewall.Audit.Record
import Firewall.Audit.Template
import Firewall.Clock
import Firewall.Command
import Firewall.Command.Administer
import Firewall.Command.Console
import Firewall.Command.Serve
import Firewall.Command.Settings
import Firewall.Command.Usage
import Firewall.Decimal
import Firewall.Dict
import Firewall.Disk
import Firewall.Error
import Firewall.Feed
import Firewall.Geo.Country
import Firewall.Geo.Database
import Firewall.Geo.Database.Datum
import Firewall.Geo.Dataset
import Firewall.Geo.Download
import Firewall.Gzip
import Firewall.Gzip.Huffman
import Firewall.Gzip.Inflate
import Firewall.Http.Service
import Firewall.Instance
import Firewall.Json.Payload
import Firewall.Json.Quoted
import Firewall.Json.Scanner
import Firewall.Main
import Firewall.Metrics
import Firewall.Mismatch
import Firewall.Net.Address
import Firewall.Net.Network
import Firewall.Policy
import Firewall.Policy.Change
import Firewall.Policy.Networks
import Firewall.Request
import Firewall.Scan
import Firewall.Service
import Firewall.Settings
import Firewall.Settings.Document
import Firewall.Settings.File
import Firewall.Settings.Findings
import Firewall.Shutdown
import Firewall.Store.Connection
import Firewall.Store.Fault
import Firewall.Store.Faulty
import Firewall.Store.Keyspace
import Firewall.Store.Location
import Firewall.Store.Record
import Firewall.Store.Shared
import Firewall.Store.Tables
import Firewall.Text
import Firewall.Text.ClassTable
import Firewall.Text.Hex
import Firewall.Text.Quoted
import Firewall.Text.Ranges
import Firewall.Text.Utf8
import Firewall.Toml.Item
import Firewall.Toml.Moment
import Firewall.Toml.Number
import Firewall.Toml.Printer
import Firewall.Toml.Reader
import Firewall.Toml.Text
import Firewall.Url
import Firewall.Url.Host
import Firewall.Url.Idna
import Firewall.Url.Idna.Bidi
import Firewall.Url.Idna.ClassTable
import Firewall.Url.Idna.MappingTable
import Firewall.Url.Idna.Normal
import Firewall.Url.Idna.NormalTable
import Firewall.Url.Idna.Punycode
import Firewall.Url.Idna.Table
import Firewall.Url.Path
import Firewall.Url.Percent
import Firewall.Proofs.Fleet
import Firewall.Proofs.Policy.Aspect
import Firewall.Proofs.Policy.Networks
import Firewall.Proofs.Policy.Instruction
import Firewall.Proofs.Policy.Order
import Firewall.Proofs.Store.Lawful
import Firewall.Proofs.Fleet.Moves
import Firewall.Proofs.Fleet.Sound
import Firewall.Proofs.Fleet.Delivery
import Firewall.Proofs.Fleet.Freshness
import Firewall.Proofs.Fleet.Upkeep
import Firewall.Proofs.Fleet.Convergence
import Firewall.Proofs.Fleet.Solo
import Firewall.Proofs.Dict
import Firewall.Proofs.Store.Condensed
import Firewall.Proofs.Text.Numeral
import Firewall.Proofs.Text.Utf8
import Firewall.Proofs.Store.Layout
import Firewall.Proofs.Store.Refinement
import Firewall.Proofs.Scan
import Firewall.Proofs.Scan.Tightening
import Firewall.Proofs.Shutdown
import Firewall.Proofs.Stopping
import Firewall.Proofs.Geo.Dataset
import Firewall.Proofs.Geo.Lifecycle
import Firewall.Proofs.Url.Printable
import Firewall.Proofs.Audit.Lines
import Firewall.Proofs.Audit.Grammar
import Firewall.Proofs.Geo.Countries
import Firewall.Proofs.Fleet.Countries
import Firewall.Proofs.Http.Tally
import Firewall.Proofs.Toml.Text
import Firewall.Proofs.Toml.Value
import Firewall.Proofs.Toml.Range
import Firewall.Proofs.Disk
import Firewall.Proofs.Settings.Document
import Firewall.Proofs.Settings.RoundTrip
import Firewall.Proofs.Settings.Findings
import Firewall.Proofs.Store.Reading
import Firewall.Proofs.Command.Job
import Firewall.Proofs.Command.ReadOnly
import Firewall.Proofs.Command.Startup
import Firewall.Proofs.Store.Connection
import Firewall.Proofs.Store.Script
import Firewall.Proofs.Store.Roots
import Firewall.Proofs.Store.Confined
import Firewall.Proofs.Store.Apart
import Firewall.Proofs.Store.Writers
import Firewall.Proofs.Store.Writers.Log
import Firewall.Proofs.Store.Writers.Accounts
import Firewall.Proofs.Store.Writers.Whole
import Firewall.Proofs.Store.Writers.Solo
