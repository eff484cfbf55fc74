import ModuleAlias.Main
import ModuleAlias.Proofs.Alias.Precedence
import ModuleAlias.Proofs.Alias.RelativeTargets
import ModuleAlias.Proofs.CommandLine.Batches
import ModuleAlias.Proofs.CommandLine.Endings
import ModuleAlias.Proofs.External.Lookups
import ModuleAlias.Proofs.Literal.Quoting
import ModuleAlias.Proofs.Replacement.Overlaps
import ModuleAlias.Proofs.Replacement.Rulings
import ModuleAlias.Proofs.Transform.SourceOrder
import ModuleAlias.Proofs.Transform.Requests
import ModuleAlias.Proofs.Replacement.Declarators
import ModuleAlias.Proofs.Replacement.ImportedNames
import ModuleAlias.Proofs.Replacement.PatternNames
import ModuleAlias.Proofs.Transform.LineBreaks
import ModuleAlias.Proofs.Configuration.Exports
import ModuleAlias.Proofs.Configuration.ResolvedPaths
