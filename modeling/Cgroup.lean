import Cgroup.Config
import Cgroup.Controller
import Cgroup.Host.Basic
import Cgroup.Host.Errno
import Cgroup.Json.Decimal
import Cgroup.Json.Quoted
import Cgroup.Json.Reader
import Cgroup.Json.Token
import Cgroup.Json.Value
import Cgroup.Mount.Info
import Cgroup.Mount.Live
import Cgroup.Mount.Table
import Cgroup.Path.Basic
import Cgroup.Path.Clean
import Cgroup.Path.Join
import Cgroup.Path.Lemmas
import Cgroup.Proofs.Config
import Cgroup.Proofs.Json.Number
import Cgroup.Proofs.Json.RoundTrip
import Cgroup.Proofs.Mount.Escaping
import Cgroup.Proofs.Mount.Lookup
import Cgroup.Proofs.Mount.Reading
import Cgroup.Proofs.Path.Below
import Cgroup.Proofs.Path.Canonical
import Cgroup.Proofs.Path.Cleaning
import Cgroup.Proofs.Path.Descending
import Cgroup.Proofs.Path.Localizing
import Cgroup.Proofs.Path.Pieces
import Cgroup.Proofs.Record.Concatenation
import Cgroup.Proofs.Record.Grammar
import Cgroup.Proofs.Record.Reading
import Cgroup.Proofs.Record.Variants
import Cgroup.Proofs.Record.Writing
import Cgroup.Proofs.Resolve.Containment
import Cgroup.Proofs.Resolve.Directory
import Cgroup.Proofs.Resolve.Escaped
import Cgroup.Proofs.Resolve.Live
import Cgroup.Proofs.Resolve.Localize
import Cgroup.Proofs.Resolve.MoreMounts
import Cgroup.Proofs.Resolve.Outcome
import Cgroup.Proofs.Resolve.Overlap
import Cgroup.Proofs.Resolve.Placing
import Cgroup.Proofs.Resolve.RecordFile
import Cgroup.Proofs.Resolve.Spelling
import Cgroup.Proofs.Resolve.Suffix
import Cgroup.Proofs.Resolve.Variants
import Cgroup.Proofs.Session.Flag
import Cgroup.Proofs.Session.Setup
import Cgroup.Proofs.Text.Lines
import Cgroup.Proofs.Text.Numeral
import Cgroup.Proofs.Text.Stream
import Cgroup.Record.Basic
import Cgroup.Record.Entry
import Cgroup.Record.Reading
import Cgroup.Resolve.Error
import Cgroup.Resolve.Membership
import Cgroup.Resolve.Strategy
import Cgroup.Session
import Cgroup.Setup
import Cgroup.Text.Cut
import Cgroup.Text.Lines
import Cgroup.Text.Numeral
import Cgroup.Text.Quoted
