import RecordMapper.Session
import RecordMapper.Model.Path
import RecordMapper.Error.Outline
import RecordMapper.Declaration.Expansion
import RecordMapper.Proofs.Predicate.Tree
import RecordMapper.Proofs.Predicate.Fragment
import RecordMapper.Proofs.Predicate.Quotes
import RecordMapper.Proofs.Predicate.Injection
import RecordMapper.Proofs.Text.Doubled
import RecordMapper.Proofs.Predicate.Pattern
import RecordMapper.Proofs.Predicate.Fault
import RecordMapper.Proofs.Predicate.Precedence
import RecordMapper.Proofs.Predicate.Grouping
import RecordMapper.Proofs.Mapping.Build
import RecordMapper.Proofs.Statement.Batch
import RecordMapper.Proofs.Statement.Parameters
import RecordMapper.Proofs.Statement.References
import RecordMapper.Proofs.Statement.Handover
import RecordMapper.Proofs.Statement.Confinement
import RecordMapper.Proofs.Statement.Numbering
import RecordMapper.Proofs.Statement.Secrecy
import RecordMapper.Proofs.Database.Exchange
import RecordMapper.Proofs.Database.Secrecy
import RecordMapper.Proofs.Database.Operations
import RecordMapper.Proofs.Database.Traffic
import RecordMapper.Proofs.Model.Fields
import RecordMapper.Proofs.Model.RoundTrip
import RecordMapper.Proofs.Model.Fallback
import RecordMapper.Proofs.Predicate.NullTest
import RecordMapper.Proofs.Predicate.Separators
import RecordMapper.Proofs.Declaration.Escapes
import RecordMapper.Proofs.Declaration.Marks
import RecordMapper.Proofs.Declaration.Meaning
import RecordMapper.Proofs.Model.Filters
import RecordMapper.Proofs.Statement.Refusal
import RecordMapper.Proofs.Declaration.Agreement
import RecordMapper.Proofs.Mapping.Acceptance
import RecordMapper.Proofs.Model.Reading
import RecordMapper.Proofs.Predicate.Affix
import RecordMapper.Proofs.Predicate.Rewriting
import RecordMapper.Proofs.Predicate.Regrouping
import RecordMapper.Proofs.Text.Numeral
import RecordMapper.Proofs.Calendar.Literals
import RecordMapper.Proofs.Database.Reads
import RecordMapper.Proofs.Statement.Wording
import RecordMapper.Proofs.Mapping.Resolution
import RecordMapper.Proofs.Error.Contexts
import RecordMapper.Proofs.Error.Rewrapping
import RecordMapper.Proofs.Text.Separated
import RecordMapper.Proofs.Predicate.Cuts
import RecordMapper.Proofs.Database.Counting
import RecordMapper.Proofs.Declaration.Reports
import RecordMapper.Proofs.Declaration.Placement
