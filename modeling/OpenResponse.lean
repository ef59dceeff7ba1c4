import OpenResponse.Main
import OpenResponse.Document.Reader
import OpenResponse.Proofs.Builder.Meaning
import OpenResponse.Proofs.Compilation.Memory
import OpenResponse.Proofs.Declaration.Agreement
import OpenResponse.Proofs.Token.Tiling
import OpenResponse.Proofs.Response.Entries
import OpenResponse.Proofs.Compilation.Entries
import OpenResponse.Proofs.Response.Origin
import OpenResponse.Proofs.Compilation.Joining
import OpenResponse.Proofs.Compilation.Selection
import OpenResponse.Proofs.Token.Progress
import OpenResponse.Proofs.Response.Operations
import OpenResponse.Proofs.Schema.Describer
import OpenResponse.Proofs.Declaration.Variants
import OpenResponse.Proofs.Source.Places
import OpenResponse.Proofs.Builder.Separation
import OpenResponse.Proofs.Schema.FloatFree
import OpenResponse.Proofs.TypeRef.Names
import OpenResponse.Proofs.Builder.Lossless
import OpenResponse.Proofs.Command.Presentation
import OpenResponse.Proofs.Declaration.Enums
import OpenResponse.Proofs.Document.Reading
import OpenResponse.Proofs.Schema.Negotiation
import OpenResponse.Proofs.TypeRef.Reading
import OpenResponse.Proofs.Schema.References
import OpenResponse.Proofs.Declaration.Structured
import OpenResponse.Proofs.Compilation.Faults
import OpenResponse.Proofs.Token.Faults
import OpenResponse.Proofs.Source.Derives
import OpenResponse.Proofs.Compilation.Arguments
import OpenResponse.Proofs.Compilation.WrittenNames
import OpenResponse.Proofs.Builder.Literals
import OpenResponse.Proofs.Declaration.ReferenceKeys
import OpenResponse.Proofs.Route.Parameters
import OpenResponse.Proofs.Route.Roots
import OpenResponse.Proofs.Route.Listing
import OpenResponse.Proofs.Source.Columns
import OpenResponse.Proofs.Source.Documentation
import OpenResponse.Proofs.Status.Spelling
import OpenResponse.Proofs.Document.Floats
import OpenResponse.Proofs.Token.Escapes
import OpenResponse.Proofs.Token.RawLiterals
