import FilterSql.Condition.Printer
import FilterSql.Files.Tree
import FilterSql.LogFilter
import FilterSql.Main
import FilterSql.Token.Cursor
import FilterSql.Proofs.Parser.Completeness
import FilterSql.Proofs.Grammar
import FilterSql.Proofs.Parser.Soundness
import FilterSql.Proofs.Sql.Lexeme
import FilterSql.Proofs.Sql.Spelling
import FilterSql.Proofs.Sql.Reading
import FilterSql.Proofs.Sql.Where
import FilterSql.Proofs.Sql.Erasure
import FilterSql.Proofs.Sql.Placeholders
import FilterSql.Proofs.Parser.Limits
import FilterSql.Proofs.Token.Segmentation
import FilterSql.Proofs.Refusal
import FilterSql.Proofs.Sql.Semantics
import FilterSql.Proofs.Sql.Joining
import FilterSql.Proofs.Sql.Scoping
import FilterSql.Proofs.Sql.Grouping
import FilterSql.Proofs.Sql.Unambiguous
import FilterSql.Proofs.Parser.Expected
import FilterSql.Proofs.Sql.Listing
import FilterSql.Proofs.Sql.Qualifiers
import FilterSql.Proofs.Sql.Naming
import FilterSql.Proofs.Session
import FilterSql.Proofs.Sql.Dialects
import FilterSql.Proofs.Sql.Paging
import FilterSql.Proofs.Token.Layout
import FilterSql.Proofs.Parser.Positions
import FilterSql.Proofs.Numeral
import FilterSql.Proofs.Token.Printing
import FilterSql.Proofs.Token.Faults
import FilterSql.Proofs.Obstacles
import FilterSql.Proofs.Severity
import FilterSql.Proofs.Parser.Rereading
import FilterSql.Proofs.Sql.Ranking
import FilterSql.Proofs.Dimension
import FilterSql.Proofs.Version
import FilterSql.Proofs.Sql.Quoting
import FilterSql.Proofs.Parser.Leaves
import FilterSql.Proofs.Parser.Numbers
import FilterSql.Proofs.BackendChoice
import FilterSql.Proofs.Json.Reading
import FilterSql.Proofs.Saving
