import QueryDesk.Text.Glyph
import QueryDesk.Text.Classes
import QueryDesk.Text.Casing
import QueryDesk.Text.Place
import QueryDesk.Text.Quoted
import QueryDesk.Number.Shortest
import QueryDesk.Number.Decimal
import QueryDesk.Calendar.IsoText
import QueryDesk.Value.Written
import QueryDesk.Value.Order
import QueryDesk.Json.Writer
import QueryDesk.Json.Reader
import QueryDesk.Statement.Clause
import QueryDesk.Sorting.Sort
import QueryDesk.Table.Execute
import QueryDesk.Business.Sample
import QueryDesk.Business.Metrics
import QueryDesk.Query.Store
import QueryDesk.Query.Template
import QueryDesk.Model.Prompt
import QueryDesk.Model.Answer
import QueryDesk.Model.Request
import QueryDesk.Supply
import QueryDesk.Setup.Opening
import QueryDesk.Journal.Journal
import QueryDesk.Web.Server
import QueryDesk.Program.Run
import QueryDesk.Main
import QueryDesk.Proofs.Condition.Depth
import QueryDesk.Proofs.Condition.Grammar
import QueryDesk.Proofs.Condition.Parts
import QueryDesk.Proofs.Condition.Terms
import QueryDesk.Proofs.Condition.Phrases
import QueryDesk.Proofs.Condition.Reading
import QueryDesk.Proofs.Statement.Where
import QueryDesk.Proofs.Query.Records
import QueryDesk.Proofs.Desk.LeftOpen
import QueryDesk.Proofs.Number.Digits
import QueryDesk.Proofs.Query.Calls
import QueryDesk.Proofs.Query.Lifecycle
import QueryDesk.Proofs.Sorting.Merge
import QueryDesk.Proofs.Sorting.Sort
import QueryDesk.Proofs.Sorting.Stable
import QueryDesk.Proofs.Sorting.Joined
import QueryDesk.Proofs.Sorting.Arranged
import QueryDesk.Proofs.Business.Typed
import QueryDesk.Proofs.Condition.Forms
import QueryDesk.Proofs.Calendar.Months
import QueryDesk.Proofs.Statement.Limit
import QueryDesk.Proofs.Table.Filter
import QueryDesk.Proofs.Sorting.Search
import QueryDesk.Proofs.Value.Stored
import QueryDesk.Proofs.Table.Failures
import QueryDesk.Proofs.Text.SameLetter
import QueryDesk.Proofs.Text.Abreast
import QueryDesk.Proofs.Statement.Alike
import QueryDesk.Proofs.Statement.Abreast
import QueryDesk.Proofs.Statement.Clauses
import QueryDesk.Proofs.Statement.Boundaries
import QueryDesk.Proofs.Condition.Alike
import QueryDesk.Proofs.Condition.Asked
import QueryDesk.Proofs.Condition.AlikeTerms
import QueryDesk.Proofs.Statement.Fillings
import QueryDesk.Proofs.Statement.Recasing
import QueryDesk.Proofs.Table.Recasing
import QueryDesk.Proofs.Text.Extended
import QueryDesk.Proofs.Condition.Signs
import QueryDesk.Proofs.Statement.Fronts
import QueryDesk.Proofs.Statement.Tails
import QueryDesk.Proofs.Table.LimitForms
import QueryDesk.Proofs.Table.Instants
import QueryDesk.Proofs.Results
import QueryDesk.Proofs.Text.Digit
import QueryDesk.Proofs.Text.Capitals
import QueryDesk.Proofs.Json.Shown
import QueryDesk.Proofs.Model.Answer
import QueryDesk.Proofs.Model.Embedded
import QueryDesk.Proofs.Table.Accepted
import QueryDesk.Proofs.Desk.Inquiry
import QueryDesk.Proofs.Number.Decimal
import QueryDesk.Proofs.Number.Range
import QueryDesk.Proofs.Json.Numerals
import QueryDesk.Proofs.Json.Spelling
import QueryDesk.Proofs.Json.RoundTrip
import QueryDesk.Proofs.Json.Readable
import QueryDesk.Proofs.Value.Ranked
import QueryDesk.Proofs.Table.Ranked
import QueryDesk.Proofs.Query.Topics
import QueryDesk.Proofs.Table.Reports
import QueryDesk.Proofs.Desk.Ending
import QueryDesk.Proofs.Desk.Written
import QueryDesk.Proofs.Desk.Trace
import QueryDesk.Proofs.Desk.Returned
import QueryDesk.Proofs.Query.Settled
import QueryDesk.Proofs.Desk.Orderly
import QueryDesk.Proofs.Desk.Alike
import QueryDesk.Proofs.Desk.Session
import QueryDesk.Proofs.Web.Requests
import QueryDesk.Proofs.Web.Completion
import QueryDesk.Proofs.Desk.Unaided
import QueryDesk.Proofs.Value.Nested
import QueryDesk.Proofs.Json.Glyphs
import QueryDesk.Proofs.Text.Paired
import QueryDesk.Proofs.Journal.Files
import QueryDesk.Proofs.Journal.Noting
import QueryDesk.Proofs.Journal.Torn
import QueryDesk.Proofs.Journal.Plain
import QueryDesk.Proofs.Journal.History
import QueryDesk.Proofs.Journal.Paths
import QueryDesk.Proofs.Journal.Slug
import QueryDesk.Proofs.Conversation.Rows
import QueryDesk.Proofs.Desk.Discreet
import QueryDesk.Proofs.Web.Events
import QueryDesk.Proofs.Conversation.SameRows
import QueryDesk.Proofs.Sorting.Mapped
import QueryDesk.Proofs.Calendar.IsoText
import QueryDesk.Proofs.Table.InWriting
import QueryDesk.Proofs.Table.Later
import QueryDesk.Proofs.Business.Metrics
import QueryDesk.Proofs.Desk.StaysReady
import QueryDesk.Proofs.Conversation.Questions
import QueryDesk.Proofs.Calendar.InOrder
import QueryDesk.Proofs.Table.Window
import QueryDesk.Proofs.Value.Readings
import QueryDesk.Proofs.Value.Coherent
import QueryDesk.Proofs.Sorting.Last
import QueryDesk.Proofs.Table.Sorted
import QueryDesk.Proofs.Desk.Clock
import QueryDesk.Proofs.Query.History
import QueryDesk.Proofs.Desk.Timely
import QueryDesk.Proofs.Desk.Context
import QueryDesk.Proofs.Table.Equalities
import QueryDesk.Proofs.Text.Gap
import QueryDesk.Proofs.Condition.Respaced
import QueryDesk.Proofs.Condition.Enclosed
import QueryDesk.Proofs.Condition.Split
import QueryDesk.Proofs.Condition.Collected
import QueryDesk.Proofs.Condition.Lines
import QueryDesk.Proofs.Condition.Touching
import QueryDesk.Proofs.Statement.Respaced
import QueryDesk.Proofs.Statement.Touching
import QueryDesk.Proofs.Table.LateWork
import QueryDesk.Proofs.Business.Totals
import QueryDesk.Proofs.Random.Twister
import QueryDesk.Proofs.Business.Sample
