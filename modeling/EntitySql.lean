import EntitySql.Config.Basic
import EntitySql.Config.Document
import EntitySql.Database.Basic
import EntitySql.Database.Execution
import EntitySql.Database.Session
import EntitySql.Declaration.Attribute
import EntitySql.Declaration.Basic
import EntitySql.Declaration.Expansion
import EntitySql.Declaration.Generics
import EntitySql.Declaration.Lexer
import EntitySql.Declaration.Literal
import EntitySql.Declaration.Operator
import EntitySql.Declaration.Path
import EntitySql.Declaration.Reader
import EntitySql.Declaration.Token
import EntitySql.Declaration.Type
import EntitySql.Dialect
import EntitySql.Entity
import EntitySql.Error
import EntitySql.Model.Basic
import EntitySql.Model.Derivation
import EntitySql.Postgres.Server
import EntitySql.Postgres.Wire
import EntitySql.Postgres.WireType
import EntitySql.Proofs.Access
import EntitySql.Proofs.Anonymity
import EntitySql.Proofs.Arguments
import EntitySql.Proofs.Caching
import EntitySql.Proofs.Conjunctions
import EntitySql.Proofs.Consistency
import EntitySql.Proofs.Derivation
import EntitySql.Proofs.EveryColumn
import EntitySql.Proofs.Execution
import EntitySql.Proofs.Expansion
import EntitySql.Proofs.Exposure
import EntitySql.Proofs.FieldWrites
import EntitySql.Proofs.Growth
import EntitySql.Proofs.Independence
import EntitySql.Proofs.Interleaving
import EntitySql.Proofs.Memory
import EntitySql.Proofs.Mentions
import EntitySql.Proofs.NameResolution
import EntitySql.Proofs.Noninterference
import EntitySql.Proofs.OutputNames
import EntitySql.Proofs.PartialUpdate
import EntitySql.Proofs.Placeholders
import EntitySql.Proofs.QuoteCharacters
import EntitySql.Proofs.Quoting
import EntitySql.Proofs.ReadBack
import EntitySql.Proofs.Readability
import EntitySql.Proofs.Reading
import EntitySql.Proofs.Records
import EntitySql.Proofs.References
import EntitySql.Proofs.ResultRows
import EntitySql.Proofs.Scanning
import EntitySql.Proofs.Separation
import EntitySql.Proofs.Soundness
import EntitySql.Proofs.Splicing
import EntitySql.Proofs.Surroundings
import EntitySql.Proofs.Synonyms
import EntitySql.Proofs.SyntaxTrees
import EntitySql.Proofs.UnknownColumns
import EntitySql.Proofs.Widening
import EntitySql.Proofs.Writing
import EntitySql.Proofs.ZeroSkipping
import EntitySql.Record.Accessor
import EntitySql.Record.Basic
import EntitySql.Record.Mapping
import EntitySql.Registry.Basic
import EntitySql.Registry.Concurrent
import EntitySql.Registry.Inquiry
import EntitySql.Resolution.Exposure
import EntitySql.Resolution.Select
import EntitySql.Resolution.Update
import EntitySql.Sql.Basic
import EntitySql.Sql.Lexeme
import EntitySql.Sql.Word
import EntitySql.Statement.Basic
import EntitySql.Text.Alphabetic
import EntitySql.Text.CaseMapping
import EntitySql.Text.CodeSet
import EntitySql.Text.Escaped
import EntitySql.Text.GraphemeExtend
import EntitySql.Text.Hexadecimal
import EntitySql.Text.Identifier
import EntitySql.Text.Lowercase
import EntitySql.Text.Numeric
import EntitySql.Text.Quoted
import EntitySql.Text.SnakeCase
import EntitySql.Text.Space
import EntitySql.Text.Unprintable
import EntitySql.Text.Uppercase
import EntitySql.Toml.Basic
import EntitySql.Toml.Document
import EntitySql.Toml.Expression
import EntitySql.Toml.Scalar
import EntitySql.Toml.Text
import EntitySql.Value.Basic
import EntitySql.Value.BigEndian
import EntitySql.Value.Binary
import EntitySql.Value.Calendar
import EntitySql.Value.Conversion
