import AssetSearch.Cancellation
import AssetSearch.Catalog.Cell
import AssetSearch.Catalog.Field
import AssetSearch.Catalog.Identity
import AssetSearch.Catalog.Location
import AssetSearch.Catalog.Row
import AssetSearch.Catalog.Saved
import AssetSearch.Catalog.Slug
import AssetSearch.Catalog.Store
import AssetSearch.CommandLine.Arguments
import AssetSearch.CommandLine.Connection
import AssetSearch.CommandLine.Help
import AssetSearch.CommandLine.Message
import AssetSearch.CommandLine.Options
import AssetSearch.CommandLine.Run
import AssetSearch.Description
import AssetSearch.Failure
import AssetSearch.Index.Hits
import AssetSearch.Index.Naming
import AssetSearch.Index.Remote
import AssetSearch.Index.Script
import AssetSearch.Index.Service
import AssetSearch.Index.Task
import AssetSearch.Json.Document
import AssetSearch.Json.Number
import AssetSearch.Json.Reader
import AssetSearch.Json.Record
import AssetSearch.Json.Token
import AssetSearch.Json.Value
import AssetSearch.Main
import AssetSearch.Network.Address
import AssetSearch.Network.Backoff
import AssetSearch.Network.Client
import AssetSearch.Network.DomainName
import AssetSearch.Network.Endpoint
import AssetSearch.Network.Exchange
import AssetSearch.Network.Host
import AssetSearch.Network.Offline
import AssetSearch.Network.Percent
import AssetSearch.Network.Punycode
import AssetSearch.Network.Retry
import AssetSearch.Network.Trial
import AssetSearch.Network.Url
import AssetSearch.Number.Binary64
import AssetSearch.Number.Numeral
import AssetSearch.Number.Shortest
import AssetSearch.Proofs.Cancellation.Wakeups
import AssetSearch.Proofs.Catalog.Answers
import AssetSearch.Proofs.Catalog.Chronology
import AssetSearch.Proofs.Catalog.Events
import AssetSearch.Proofs.Catalog.FieldMap
import AssetSearch.Proofs.Catalog.Lookup
import AssetSearch.Proofs.Catalog.NameWords
import AssetSearch.Proofs.Catalog.Reading
import AssetSearch.Proofs.Catalog.Refinement
import AssetSearch.Proofs.Catalog.Rows
import AssetSearch.Proofs.Catalog.SearchableSlugs
import AssetSearch.Proofs.Catalog.SlugCharacters
import AssetSearch.Proofs.Catalog.WrittenRows
import AssetSearch.Proofs.CommandLine.FailedCommands
import AssetSearch.Proofs.Index.AllOrNothing
import AssetSearch.Proofs.Index.NewerTasks
import AssetSearch.Proofs.Index.PolledCalls
import AssetSearch.Proofs.Index.RecordedCalls
import AssetSearch.Proofs.Index.RequestPaths
import AssetSearch.Proofs.Index.SerializedForms
import AssetSearch.Proofs.Index.TeamNames
import AssetSearch.Proofs.Json.Containers
import AssetSearch.Proofs.Json.Grammar
import AssetSearch.Proofs.Json.Integers
import AssetSearch.Proofs.Json.KnownMembers
import AssetSearch.Proofs.Json.Numerals
import AssetSearch.Proofs.Json.Records
import AssetSearch.Proofs.Json.WrittenTokens
import AssetSearch.Proofs.Json.WrittenValues
import AssetSearch.Proofs.Network.BrokenRuns
import AssetSearch.Proofs.Network.CappedDelays
import AssetSearch.Proofs.Network.CountedAttempts
import AssetSearch.Proofs.Network.Endpoints
import AssetSearch.Proofs.Network.Interruption
import AssetSearch.Proofs.Network.KeptExplanations
import AssetSearch.Proofs.Network.PercentCodes
import AssetSearch.Proofs.Network.ReportedExchanges
import AssetSearch.Proofs.Network.RequestedPause
import AssetSearch.Proofs.Network.Resending
import AssetSearch.Proofs.Network.RetryRuns
import AssetSearch.Proofs.Network.RoundedSeconds
import AssetSearch.Proofs.Number.FiniteNumerals
import AssetSearch.Proofs.Number.Numeral
import AssetSearch.Proofs.Number.RepresentableNumbers
import AssetSearch.Proofs.Number.Rounding
import AssetSearch.Proofs.Number.TypedNumerals
import AssetSearch.Proofs.Query.CompiledFilter
import AssetSearch.Proofs.Query.Composition
import AssetSearch.Proofs.Query.DelimitingQuotes
import AssetSearch.Proofs.Query.FilterReader
import AssetSearch.Proofs.Query.FreeText
import AssetSearch.Proofs.Query.Grammar
import AssetSearch.Proofs.Query.Keywords
import AssetSearch.Proofs.Query.KindSpellings
import AssetSearch.Proofs.Query.NumberValues
import AssetSearch.Proofs.Query.PairTerms
import AssetSearch.Proofs.Query.Pairs
import AssetSearch.Proofs.Query.QuotedLiterals
import AssetSearch.Proofs.Query.QuotedValues
import AssetSearch.Proofs.Query.RetypedValues
import AssetSearch.Proofs.Query.TokenRuns
import AssetSearch.Proofs.Query.TokenTexts
import AssetSearch.Proofs.Query.UnusedKeywords
import AssetSearch.Proofs.Query.Words
import AssetSearch.Proofs.Results
import AssetSearch.Proofs.Search.CurrentKeywords
import AssetSearch.Proofs.Tasks.FilterableAttributes
import AssetSearch.Proofs.Tasks.PollSchedules
import AssetSearch.Proofs.Tasks.PollSummary
import AssetSearch.Proofs.Tasks.ReportedSnapshots
import AssetSearch.Proofs.Tasks.SeparateTeams
import AssetSearch.Proofs.Tasks.StoppedPolls
import AssetSearch.Proofs.Text.AsciiCase
import AssetSearch.Proofs.Text.Blank
import AssetSearch.Proofs.Text.Bytes
import AssetSearch.Proofs.Text.CaseImages
import AssetSearch.Proofs.Text.CaseLetters
import AssetSearch.Proofs.Text.Intervals
import AssetSearch.Proofs.Text.Marks
import AssetSearch.Proofs.Text.Ordered
import AssetSearch.Proofs.Text.Runs
import AssetSearch.Proofs.Time.DayNumbers
import AssetSearch.Proofs.Time.DocumentTimes
import AssetSearch.Proofs.Time.FilterDates
import AssetSearch.Proofs.Time.FilterTimes
import AssetSearch.Proofs.Time.NoNumerals
import AssetSearch.Proofs.Time.ReadTimes
import AssetSearch.Proofs.Time.Scan
import AssetSearch.Proofs.Time.StoredOrder
import AssetSearch.Proofs.Time.StoredTime
import AssetSearch.Proofs.Time.ZonedTimes
import AssetSearch.Query.Compiled
import AssetSearch.Query.Condition
import AssetSearch.Query.Filter
import AssetSearch.Query.Kind
import AssetSearch.Query.Literal
import AssetSearch.Query.Piece
import AssetSearch.Query.Token
import AssetSearch.Query.Vocabulary
import AssetSearch.Search.Hits
import AssetSearch.Search.Plan
import AssetSearch.Tasks.Channel
import AssetSearch.Tasks.Requests
import AssetSearch.Tasks.Snapshot
import AssetSearch.Tasks.Timeline
import AssetSearch.Tasks.Watcher
import AssetSearch.Text.Alphanumeric
import AssetSearch.Text.Alphanumeric.Table
import AssetSearch.Text.Blank
import AssetSearch.Text.ByteLength
import AssetSearch.Text.Escaped
import AssetSearch.Text.Intervals
import AssetSearch.Text.LetterCase
import AssetSearch.Text.LetterCase.Context
import AssetSearch.Text.LetterCase.Lower
import AssetSearch.Text.LetterCase.Run
import AssetSearch.Text.LetterCase.Upper
import AssetSearch.Text.Ordered
import AssetSearch.Time.Calendar
import AssetSearch.Time.Duration
import AssetSearch.Time.FilterDate
import AssetSearch.Time.Instant
import AssetSearch.Time.Rfc3339
import AssetSearch.Time.Scan
