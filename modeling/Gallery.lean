import Gallery.Query
import Gallery.FullText.Fold
import Gallery.FullText.Expression
import Gallery.Web.Form
import Gallery.Plan.Compile
import Gallery.Plan.Statement
import Gallery.Sql.Load
import Gallery.Config.File
import Gallery.Listing.Row
import Gallery.Listing.Curation
import Gallery.Search.Shuffle
import Gallery.Search.Page
import Gallery.Service.Handlers
import Gallery.Proofs.FullText.Unreadable
import Gallery.Proofs.Plan.Counts
import Gallery.Proofs.Search.Order
import Gallery.Proofs.Plan.Demand
import Gallery.Proofs.Search.Meaning
import Gallery.Proofs.Search.Answer
import Gallery.Proofs.Search.Pages
import Gallery.Proofs.Query.Concatenation
import Gallery.Proofs.Search.Conjunction
import Gallery.Proofs.Query.TitleCharacters
import Gallery.Proofs.Search.JointTrial
import Gallery.Proofs.Search.TwoQueries
import Gallery.Proofs.Query.SignedToken
import Gallery.Proofs.Search.Roles
import Gallery.Proofs.Store.Reachable
import Gallery.Proofs.Search.Counting
import Gallery.Proofs.Search.Ranking
import Gallery.Proofs.Store.Purge
import Gallery.Proofs.Search.Deleted
import Gallery.Proofs.Service.Deleted
import Gallery.Proofs.Text.Alphanumeric
import Gallery.Proofs.FullText.KeptWords
import Gallery.Proofs.Sql.Placeholders
import Gallery.Proofs.Plan.Binds
import Gallery.Proofs.Plan.Dialects
import Gallery.Proofs.Plan.Similar
import Gallery.Proofs.Search.Failures
import Gallery.Proofs.Store.Indexing
import Gallery.Proofs.Store.Cascade
import Gallery.Proofs.Json.Deletion
import Gallery.Proofs.Text.Utf8
import Gallery.Proofs.Config.Completion
import Gallery.Proofs.Query.FreeText
import Gallery.Proofs.Query.CanonicalTags
import Gallery.Proofs.Plan.JoinedCounts
import Gallery.Proofs.Plan.Answers
import Gallery.Proofs.Service.Contract
import Gallery.Proofs.Query.WellFormed
import Gallery.Proofs.Query.NumberTokens
import Gallery.Proofs.Query.LastFilters
import Gallery.Proofs.Query.DollarSigns
import Gallery.Proofs.Search.Blacklist
import Gallery.Proofs.FullText.LexemeGrammar
import Gallery.Proofs.FullText.LexemeTrees
import Gallery.Proofs.FullText.Phrases
import Gallery.Proofs.Text.Wildcards
import Gallery.Proofs.Search.LiteralFilters
import Gallery.Proofs.Plan.Labels
import Gallery.Proofs.Plan.Structure
import Gallery.Proofs.Search.LoadedItems
import Gallery.Proofs.Search.OtherTitles
import Gallery.Proofs.Search.TokenlessWords
import Gallery.Proofs.Search.NaturalSort
import Gallery.Proofs.Listing.Curation
import Gallery.Proofs.Search.ShuffledPositions
import Gallery.Proofs.Search.Parameters
import Gallery.Proofs.Service.Responses
