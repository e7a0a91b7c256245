import ScriptCoverage.Coverage.Naming
import ScriptCoverage.Coverage.Session
import ScriptCoverage.Machine.Initial
import ScriptCoverage.Machine.Shown
import ScriptCoverage.Proofs.Coverage.Arguments
import ScriptCoverage.Proofs.Coverage.Independence
import ScriptCoverage.Proofs.Coverage.Limits
import ScriptCoverage.Proofs.Coverage.Parameters
import ScriptCoverage.Proofs.Coverage.Printed
import ScriptCoverage.Proofs.Coverage.Ranges
import ScriptCoverage.Proofs.Coverage.Reprinting
import ScriptCoverage.Proofs.Coverage.Rereading
import ScriptCoverage.Proofs.Coverage.Summaries
import ScriptCoverage.Proofs.Coverage.Unwinding
import ScriptCoverage.Proofs.Machine.Bindings
import ScriptCoverage.Proofs.Machine.Depth
import ScriptCoverage.Proofs.Machine.Equality
import ScriptCoverage.Proofs.Machine.LexicalNames
import ScriptCoverage.Proofs.Machine.LoopKeys
import ScriptCoverage.Proofs.Machine.PlainScopes
import ScriptCoverage.Proofs.Machine.PropertyTests
import ScriptCoverage.Proofs.Machine.Replacing
import ScriptCoverage.Proofs.Machine.RunOnce
import ScriptCoverage.Proofs.Module.Paths
import ScriptCoverage.Proofs.Number.Numerals
import ScriptCoverage.Proofs.Pattern.Stepping
import ScriptCoverage.Proofs.Source.OpenBrackets
import ScriptCoverage.Proofs.Text.Offsets
