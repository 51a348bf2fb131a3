import TenantSearch.Http.Route
import TenantSearch.Main
import TenantSearch.Schema
import TenantSearch.Proofs.Arrangement
import TenantSearch.Proofs.Hub
import TenantSearch.Proofs.ScoreOrder
import TenantSearch.Proofs.LeadGraph
import TenantSearch.Proofs.CandidateOrder
import TenantSearch.Proofs.CandidateRecords
import TenantSearch.Proofs.Fetching
import TenantSearch.Proofs.Merged
import TenantSearch.Proofs.Answer
import TenantSearch.Proofs.TenantIsolation
import TenantSearch.Proofs.Links
import TenantSearch.Proofs.Paging
import TenantSearch.Proofs.StorageOrder
import TenantSearch.Proofs.TypeFilter
import TenantSearch.Proofs.ScoreBounds
import TenantSearch.Proofs.LeadRanks
import TenantSearch.Proofs.FoldedText
import TenantSearch.Proofs.Inclusion
import TenantSearch.Proofs.ScoreRange
import TenantSearch.Proofs.PrefixSearch
import TenantSearch.Proofs.Headline
import TenantSearch.Proofs.Highlighting
import TenantSearch.Proofs.Outage
import TenantSearch.Proofs.Footprint
import TenantSearch.Proofs.RankParts
import TenantSearch.Proofs.Explanation
import TenantSearch.Proofs.Propagation
import TenantSearch.Proofs.Visibility
import TenantSearch.Proofs.QueryForms
import TenantSearch.Proofs.Locality
import TenantSearch.Proofs.Growth
import TenantSearch.Proofs.DeadLeads
import TenantSearch.Proofs.SearchRoute
import TenantSearch.Proofs.HeadlineWindow
import TenantSearch.Proofs.DescriptionMarks
import TenantSearch.Proofs.NaturalLexemes
import TenantSearch.Proofs.CompleteMatch
import TenantSearch.Proofs.Loading
import TenantSearch.Proofs.FoldingLaws
import TenantSearch.Proofs.LexemeHits
import TenantSearch.Proofs.Ladder
import TenantSearch.Proofs.SegmentEnds
import TenantSearch.Proofs.SingleSpaces
import TenantSearch.Proofs.Excerpts
import TenantSearch.Proofs.Acceptance
import TenantSearch.Proofs.FilterGrammar
import TenantSearch.Proofs.DecimalDigits
import TenantSearch.Proofs.WrittenTimes
import TenantSearch.Proofs.BestNotes
import TenantSearch.Proofs.Amounts
