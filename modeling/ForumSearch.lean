import ForumSearch.Command.Folder
import ForumSearch.Main
import ForumSearch.Proofs.Index.Keyword
import ForumSearch.Proofs.Search.Paging
import ForumSearch.Proofs.Store.VoteCounters
import ForumSearch.Proofs.Store.VotingRuns
import ForumSearch.Proofs.Tag.Snapshot
import ForumSearch.Proofs.Index.Exclusion
import ForumSearch.Proofs.Index.Stretch
import ForumSearch.Proofs.Index.Composition
import ForumSearch.Proofs.Query.FreeText
import ForumSearch.Proofs.Search.Title
import ForumSearch.Proofs.Query.Printing
import ForumSearch.Proofs.Search.Privacy
import ForumSearch.Proofs.Search.ShownTags
import ForumSearch.Proofs.Store.Independence
import ForumSearch.Proofs.Store.Reads
import ForumSearch.Proofs.Search.Conversation
import ForumSearch.Proofs.Search.MatchTexts
import ForumSearch.Proofs.Search.Narrowing
import ForumSearch.Proofs.Search.Days
import ForumSearch.Proofs.Session.Reconfiguration
import ForumSearch.Proofs.Query.Spans
import ForumSearch.Proofs.Ranking.Rank
import ForumSearch.Proofs.Search.RankedPage
import ForumSearch.Proofs.Query.KeywordList
import ForumSearch.Proofs.Query.AuthorName
import ForumSearch.Proofs.Query.QuotedPhrase
import ForumSearch.Proofs.Search.SelfExemption
import ForumSearch.Proofs.Query.Dashes
import ForumSearch.Proofs.Query.Interval
import ForumSearch.Proofs.Query.TimeBound
import ForumSearch.Proofs.Ranking.Upvote
import ForumSearch.Proofs.Forum.VoteStats
import ForumSearch.Proofs.Settings.Resolution
import ForumSearch.Proofs.Store.NamedAuthors
import ForumSearch.Proofs.Tag.Lookup
