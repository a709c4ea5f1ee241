import ObjectDocument.Entities
import ObjectDocument.Proofs.Accessor.Coercion
import ObjectDocument.Proofs.Accessor.Integers
import ObjectDocument.Proofs.Accessor.Lenses
import ObjectDocument.Proofs.Codec.RoundTrip
import ObjectDocument.Proofs.Codec.Versions
import ObjectDocument.Proofs.Draft.GivenNames
import ObjectDocument.Proofs.Draft.MethodPairs
import ObjectDocument.Proofs.Lineage.Closure
import ObjectDocument.Proofs.Mapper.Ancestry
import ObjectDocument.Proofs.Mapper.FirstSettings
import ObjectDocument.Proofs.Mapper.Fulfilled
import ObjectDocument.Proofs.Mapper.Identified
import ObjectDocument.Proofs.Mapper.Independence
import ObjectDocument.Proofs.Mapper.Inheritance
import ObjectDocument.Proofs.Mapper.References
import ObjectDocument.Proofs.Mapper.Verdict
import ObjectDocument.Proofs.Metadata.Merging
import ObjectDocument.Proofs.Path.Filter
import ObjectDocument.Proofs.Path.Reading
import ObjectDocument.Proofs.Path.Translated
import ObjectDocument.Proofs.Renaming.Answers
import ObjectDocument.Proofs.Schema.Boxed
import ObjectDocument.Proofs.Schema.Named
import ObjectDocument.Proofs.Schema.Reordered
import ObjectDocument.Schema.Build
import ObjectDocument.TypeExpr.Printer
