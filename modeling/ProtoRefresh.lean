import ProtoRefresh.CommandLine.Crate
import ProtoRefresh.Main
import ProtoRefresh.Proofs.Compiler.DepthFirst
import ProtoRefresh.Proofs.Regeneration.Check
import ProtoRefresh.Proofs.Rewrite.InOrder
import ProtoRefresh.Proofs.Rewrite.Leftmost
import ProtoRefresh.Proofs.Rewrite.Passes
import ProtoRefresh.Proofs.Proto.Layout
import ProtoRefresh.Proofs.FileTree.Outputs
import ProtoRefresh.Proofs.Host.Ending
import ProtoRefresh.Proofs.Host.Commands
import ProtoRefresh.Proofs.Regeneration.Again
import ProtoRefresh.Proofs.Regeneration.Leftovers
import ProtoRefresh.Proofs.Regeneration.Gate
import ProtoRefresh.Proofs.Regeneration.Border
import ProtoRefresh.Proofs.Regeneration.Crate
import ProtoRefresh.Proofs.Relocation.Once
import ProtoRefresh.Proofs.Console.Escaped
import ProtoRefresh.Proofs.CommandLine.Status
import ProtoRefresh.Proofs.Rewrite.Whole
import ProtoRefresh.Proofs.Rewrite.Again
import ProtoRefresh.Proofs.Glob.Beside
import ProtoRefresh.Proofs.Rewrite.Lost
import ProtoRefresh.Proofs.Compiler.InputOrder
import ProtoRefresh.Proofs.Compiler.IncludePath
import ProtoRefresh.Proofs.Compiler.Reads
import ProtoRefresh.Proofs.Compiler.Hidden
import ProtoRefresh.Proofs.Proto.Comments
import ProtoRefresh.Proofs.Relocation.Changed
import ProtoRefresh.Proofs.Relocation.Unfinished
import ProtoRefresh.Proofs.Relocation.Destinations
import ProtoRefresh.Proofs.Rewrite.Apart
import ProtoRefresh.Proofs.Rewrite.LineEnds
import ProtoRefresh.Proofs.Compiler.Settings
import ProtoRefresh.Proofs.Compiler.OptionText
import ProtoRefresh.Proofs.Toolchain.Version
import ProtoRefresh.Proofs.Regeneration.Sources
import ProtoRefresh.Proofs.Regeneration.Inputs
import ProtoRefresh.Proofs.Rewrite.NormalForm
import ProtoRefresh.Proofs.Compiler.Script
import ProtoRefresh.Proofs.Proto.Tiling
import ProtoRefresh.Proofs.CommandLine.Rows
