import DatasetSearch.Cache.Overlap
import DatasetSearch.Config.Json
import DatasetSearch.Config.Load
import DatasetSearch.Http.Server
import DatasetSearch.Log.Line
import DatasetSearch.Main
import DatasetSearch.Server.Start
import DatasetSearch.Proofs.Sql.Injection
import DatasetSearch.Proofs.Sql.Precedence
import DatasetSearch.Proofs.Filter.Meaning
import DatasetSearch.Proofs.Search.Meaning
import DatasetSearch.Proofs.Cache.Key
import DatasetSearch.Proofs.Cache.Overlap
import DatasetSearch.Proofs.Cache.History
import DatasetSearch.Proofs.Cache.Transparency
import DatasetSearch.Proofs.Cache.Separation
import DatasetSearch.Proofs.Cache.Fetch
import DatasetSearch.Proofs.Cache.Freshness
import DatasetSearch.Proofs.Cache.Counting
import DatasetSearch.Proofs.Cache.Gated
import DatasetSearch.Proofs.Cache.GateOrder
import DatasetSearch.Proofs.Cache.GateSchedule
import DatasetSearch.Proofs.Cache.SingleFlight
import DatasetSearch.Proofs.Cache.Sequential
import DatasetSearch.Proofs.Cache.GateUse
import DatasetSearch.Proofs.Cache.Intact
import DatasetSearch.Proofs.Http.Moves
import DatasetSearch.Proofs.Http.Confidential
import DatasetSearch.Proofs.Http.Eviction
import DatasetSearch.Proofs.Http.Answered
import DatasetSearch.Proofs.Service.QueryString
import DatasetSearch.Proofs.Http.Methods
import DatasetSearch.Proofs.Sql.Like
import DatasetSearch.Proofs.Sql.Identifier
import DatasetSearch.Proofs.Matching
import DatasetSearch.Proofs.Search.Exclusion
import DatasetSearch.Proofs.Http.DatasetEviction
import DatasetSearch.Proofs.Service.Paging
import DatasetSearch.Proofs.Http.Inquiry
import DatasetSearch.Proofs.Http.Rejected
import DatasetSearch.Proofs.Http.Repeated
import DatasetSearch.Proofs.Http.Uncached
import DatasetSearch.Proofs.Json.Codes
import DatasetSearch.Proofs.Filter.Parameters
import DatasetSearch.Proofs.Search.Concatenation
import DatasetSearch.Proofs.Filter.Relevance
import DatasetSearch.Proofs.Filter.Monotone
import DatasetSearch.Proofs.Cache.Shedding
import DatasetSearch.Proofs.Cache.Purging
import DatasetSearch.Proofs.Sql.ColumnIndex
import DatasetSearch.Proofs.Sql.TableName
import DatasetSearch.Proofs.Sql.Pagination
import DatasetSearch.Proofs.Service.QueryPairs
