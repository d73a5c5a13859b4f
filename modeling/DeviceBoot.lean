import DeviceBoot.Text.Hex
import DeviceBoot.Text.Utf8
import DeviceBoot.Word.LittleEndian
import DeviceBoot.Config
import DeviceBoot.Image.Header
import DeviceBoot.Bundle.Table
import DeviceBoot.Memory.Region
import DeviceBoot.Memory.Layout
import DeviceBoot.Memory.Zero
import DeviceBoot.Gate.Basic
import DeviceBoot.Console.Send
import DeviceBoot.Console.Buffer
import DeviceBoot.Console.Shared
import DeviceBoot.Roots.Scanner
import DeviceBoot.Boot.Runtime
import DeviceBoot.Boot.Sequence
import DeviceBoot.Bench.Gates
import DeviceBoot.Bench.Script
import DeviceBoot.Bench.Board
import DeviceBoot.Bench.ArenaBoot
import DeviceBoot.Bench.BufferBoot
import DeviceBoot.Bench.Collectors
import DeviceBoot.Bench.Probes
import DeviceBoot.Device.Interpreter
import DeviceBoot.Device.Hooks
import DeviceBoot.Device.Binding
import DeviceBoot.Bench.Device
import DeviceBoot.Bench.DeviceStart
import DeviceBoot.Text.CodeRanges
import DeviceBoot.Text.Printable
import DeviceBoot.Text.Extending
import DeviceBoot.Text.Lines
import DeviceBoot.Text.Quote
import DeviceBoot.Bundle.Pack
import DeviceBoot.Tooling.Sha256
import DeviceBoot.Tooling.PathText
import DeviceBoot.Tooling.Files
import DeviceBoot.Tooling.Process
import DeviceBoot.Tooling.JsonText
import DeviceBoot.Number.Binary64
import DeviceBoot.Number.Shortest
import DeviceBoot.Tooling.Toml.Scan
import DeviceBoot.Tooling.Toml.Number
import DeviceBoot.Tooling.Toml.DateTime
import DeviceBoot.Tooling.Toml.Report
import DeviceBoot.Tooling.Toml.Table
import DeviceBoot.Tooling.Toml.Document
import DeviceBoot.Tooling.Settings
import DeviceBoot.Tooling.Tasks
import DeviceBoot.Tooling.LinkScript
import DeviceBoot.Main
import DeviceBoot.Proofs.Text.Utf8
import DeviceBoot.Proofs.Bundle.Layout
import DeviceBoot.Proofs.Bundle.Parse
import DeviceBoot.Proofs.Bundle.Pack
import DeviceBoot.Proofs.Boot.LoggedBoard
import DeviceBoot.Proofs.Boot.Transcript
import DeviceBoot.Proofs.Roots.Cycle
import DeviceBoot.Proofs.Roots.Reentry
import DeviceBoot.Proofs.Boot.RuntimeCalls
import DeviceBoot.Proofs.Console.Segments
import DeviceBoot.Proofs.Console.SendTrace
import DeviceBoot.Proofs.Console.Shared
import DeviceBoot.Proofs.Memory.Validation
import DeviceBoot.Proofs.Memory.Regions
import DeviceBoot.Proofs.Memory.Clearing
import DeviceBoot.Proofs.Image.Codec
import DeviceBoot.Bundle.Target
import DeviceBoot.Proofs.Bundle.Target
import DeviceBoot.Proofs.Bundle.Iterator
import DeviceBoot.Proofs.Device.DeferredRaise
