import NamespaceBootstrap.Text.Blank
import NamespaceBootstrap.Text.Printable
import NamespaceBootstrap.Text.Hex
import NamespaceBootstrap.Text.Quoted
import NamespaceBootstrap.Text.Utf8
import NamespaceBootstrap.Text.Decimal
import NamespaceBootstrap.Json.Error
import NamespaceBootstrap.Config.Error
import NamespaceBootstrap.Os.Errno
import NamespaceBootstrap.Os.Io
import NamespaceBootstrap.Process.Id
import NamespaceBootstrap.Bootstrap.Tag
import NamespaceBootstrap.Bootstrap.Error
import NamespaceBootstrap.Namespace.Path
import NamespaceBootstrap.Namespace.Kind
import NamespaceBootstrap.Namespace.Flags
import NamespaceBootstrap.Namespace.List
import NamespaceBootstrap.Wire.Frame
import NamespaceBootstrap.Wire.Stream
import NamespaceBootstrap.Wire.Channel
import NamespaceBootstrap.Bootstrap.Handoff
import NamespaceBootstrap.Bootstrap.Joiner
import NamespaceBootstrap.Bootstrap.Cloner
import NamespaceBootstrap.Bootstrap.Machine
import NamespaceBootstrap.Bootstrap.Settings
import NamespaceBootstrap.Bootstrap.Images
import NamespaceBootstrap.Text.Shortest
import NamespaceBootstrap.Json.Cursor
import NamespaceBootstrap.Json.Lexeme
import NamespaceBootstrap.Json.Writer
import NamespaceBootstrap.Launch.InitConfig
import NamespaceBootstrap.Launch.Payload
import NamespaceBootstrap.Launch.Environment
import NamespaceBootstrap.Cli.Grammar
import NamespaceBootstrap.Cli.Similar
import NamespaceBootstrap.Cli.Usage
import NamespaceBootstrap.Cli.Help
import NamespaceBootstrap.Cli.Failure
import NamespaceBootstrap.Cli.Parse
import NamespaceBootstrap.Cli.Commands
import NamespaceBootstrap.Cli.Plan
import NamespaceBootstrap.Host.System
import NamespaceBootstrap.Host.Report
import NamespaceBootstrap.Host.Init
import NamespaceBootstrap.Host.Bootstrap
import NamespaceBootstrap.Host.Program
import NamespaceBootstrap.Main
import NamespaceBootstrap.Proofs.Resumption
import NamespaceBootstrap.Proofs.Utf8
import NamespaceBootstrap.Proofs.Codec
import NamespaceBootstrap.Proofs.Channel
import NamespaceBootstrap.Proofs.ProcPaths
import NamespaceBootstrap.Proofs.Joining
import NamespaceBootstrap.Proofs.Handshake
import NamespaceBootstrap.Proofs.BlobFrame
import NamespaceBootstrap.Proofs.ListCodec
import NamespaceBootstrap.Proofs.DispatchOnce
import NamespaceBootstrap.Proofs.JsonRead
import NamespaceBootstrap.Proofs.InitPayload
import NamespaceBootstrap.Proofs.JoinOrder
import NamespaceBootstrap.Proofs.KindNames
import NamespaceBootstrap.Proofs.EnvironmentMerge
import NamespaceBootstrap.Proofs.FlagWords
import NamespaceBootstrap.Proofs.FlagText
import NamespaceBootstrap.Proofs.DecimalIds
import NamespaceBootstrap.Proofs.PidCounter
