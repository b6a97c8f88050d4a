import SchemaBindings.Main
import SchemaBindings.Proofs.Hierarchy
import SchemaBindings.Proofs.ImportClosure
import SchemaBindings.Proofs.Paths
import SchemaBindings.Proofs.TypeLevels
import SchemaBindings.Proofs.Failure
import SchemaBindings.Proofs.UnknownTypes
import SchemaBindings.Proofs.Inheritance
import SchemaBindings.Proofs.Locations
import SchemaBindings.Proofs.Trees
import SchemaBindings.Proofs.Outcomes
import SchemaBindings.Proofs.Precedence
import SchemaBindings.Proofs.DocumentOrder
import SchemaBindings.Proofs.ModuleImports
import SchemaBindings.Proofs.BoundNames
import SchemaBindings.Proofs.WithoutApis
import SchemaBindings.Proofs.Confinement
import SchemaBindings.Proofs.ExpectedFailures
import SchemaBindings.Proofs.Repetition
import SchemaBindings.Proofs.Identifiers
import SchemaBindings.Proofs.MemberNames
import SchemaBindings.Proofs.ResolverParents
import SchemaBindings.Proofs.ImportCircles
import SchemaBindings.Proofs.Parameters
import SchemaBindings.Proofs.UsableNames
import SchemaBindings.Proofs.ImportStatements
import SchemaBindings.Proofs.Docstrings
import SchemaBindings.Proofs.InterfaceClosure
import SchemaBindings.Proofs.Pruning
import SchemaBindings.Proofs.Annotations
import SchemaBindings.Proofs.ImportedFiles
import SchemaBindings.Proofs.ImportLists
import SchemaBindings.Proofs.OperationModules
import SchemaBindings.Proofs.FieldLines
import SchemaBindings.Proofs.DocumentModules
import SchemaBindings.Proofs.LowLines
import SchemaBindings.Proofs.CustomTargets
import SchemaBindings.Proofs.CombinedOptions
import SchemaBindings.Proofs.Histories
import SchemaBindings.Proofs.Comments
import SchemaBindings.Proofs.CustomTypeTexts
import SchemaBindings.Proofs.Enumerations
