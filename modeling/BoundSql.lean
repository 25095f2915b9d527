import BoundSql.Codec.Config
import BoundSql.Codec.Query
import BoundSql.Compile
import BoundSql.Query.Step
import BoundSql.Proofs.Placeholders
import BoundSql.Proofs.Vocabulary
import BoundSql.Proofs.Condition.Truth
import BoundSql.Proofs.Selection.Injectivity
import BoundSql.Proofs.Noninterference
import BoundSql.Proofs.Dialects
import BoundSql.Proofs.Codec.Roundtrip
import BoundSql.Proofs.Codec.Agreement
import BoundSql.Proofs.Insertion.Compound
import BoundSql.Proofs.Codec.Rows
import BoundSql.Proofs.Change.Update
import BoundSql.Proofs.Change.Filter
import BoundSql.Proofs.Selection.Checks
import BoundSql.Proofs.Condition.OnePass
import BoundSql.Proofs.Building.Extension
import BoundSql.Proofs.Building.Acceptance
import BoundSql.Proofs.Selection.Keywords
import BoundSql.Proofs.Quoting.Names
