import Preludedb.Foundations.Programs
import Preludedb.Foundations.Observations
import Preludedb.Foundations.Journals
import Preludedb.Foundations.Monitors
import Preludedb.Sql.Mutex
import Preludedb.Sql.Commit
import Preludedb.Foundations.Scripts
import Preludedb.Foundations.Tables
import Preludedb.Idmef.Message
import Preludedb.Classic.Database
import Preludedb.Classic.Insert
import Preludedb.Classic.Elements
import Preludedb.Classic.Storing
import Preludedb.Sql.Steady
import Preludedb.Classic.Issued
import Preludedb.Classic.Sessions
import Preludedb.Classic.Unchecked
import Preludedb.Classic.Atomicity
import Preludedb.Admin.Move
import Preludedb.Admin.Stores
import Preludedb.Admin.Lossless
import Preludedb.Admin.Load
import Preludedb.Admin.Tally
import Preludedb.Admin.Pages
import Preludedb.Admin.Delete
import Preludedb.Admin.Resume
import Preludedb.Classic.Delete
import Preludedb.Classic.Restores
import Preludedb.Classic.Fields
import Preludedb.Classic.Get
import Preludedb.Classic.Traversal
import Preludedb.Classic.Isolation
import Preludedb.Sql.Leftover
import Preludedb.Sql.Results
import Preludedb.Sql.Settings
import Preludedb.Sql.Cursors
import Preludedb.Sql.Threads
import Preludedb.Classic.Clients
import Preludedb.Classic.Backends
import Preludedb.Classic.JoinedRows
import Preludedb.Classic.SharedRows
import Preludedb.Foundations.Forms
import Preludedb.Foundations.Conditions
import Preludedb.Sql.Builders
import Preludedb.Classic.Selection
import Preludedb.Classic.ColumnCounts
import Preludedb.Sql.Criterion
import Preludedb.Classic.Criteria
import Preludedb.Classic.Queries
import Preludedb.Classic.Releases
import Preludedb.Classic.Slots
import Preludedb.Classic.Groups
import Preludedb.Classic.Shapes
import Preludedb.Classic.Keys
import Preludedb.Classic.Mirrors
import Preludedb.Classic.Reading
import Preludedb.Classic.Scanning
import Preludedb.Classic.Owned
import Preludedb.Classic.AddedData
import Preludedb.Foundations.Buffers
import Preludedb.Foundations.Drafts
import Preludedb.Foundations.Literals
import Preludedb.Sql.Binary
import Preludedb.Sql.Blobs
import Preludedb.Sql.Escapes
import Preludedb.Sql.SizeGuards
import Preludedb.Sql.Trimming
import Preludedb.Sql.RowTables
import Preludedb.Sql.RowCounts
import Preludedb.Sql.References
import Preludedb.Sql.Substrings
import Preludedb.Sql.Negation
import Preludedb.Sql.Numerals
import Preludedb.Sql.BrokenDown
import Preludedb.Classic.Integers
import Preludedb.Classic.Deletions
import Preludedb.Classic.Files
import Preludedb.Classic.LostErrors
import Preludedb.Classic.Unfetched
import Preludedb.Classic.Values
import Preludedb.Classic.Qualifiers
import Preludedb.Classic.Ordinals
import Preludedb.Admin.Save
import Preludedb.Foundations.Scanners
import Preludedb.Paths.Lexer
import Preludedb.Paths.Spelling
import Preludedb.Paths.Grammar
import Preludedb.Paths.Parsing
import Preludedb.Paths.Trees
import Preludedb.Paths.Writing
import Preludedb.Classic.Processes
