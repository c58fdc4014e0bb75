import Dashboard.Main
import Dashboard.Proofs.Query.Grammar
import Dashboard.Proofs.Query.ReadingInvariant
import Dashboard.Proofs.Json.Members
import Dashboard.Proofs.Listing.Store
import Dashboard.Proofs.Permission.Denial
import Dashboard.Proofs.Permission.Grant
import Dashboard.Proofs.Query.Acceptance
import Dashboard.Proofs.Server.Effect
import Dashboard.Proofs.Server.Guard
import Dashboard.Proofs.Server.Mutation
import Dashboard.Proofs.Server.ServiceCreation
import Dashboard.Proofs.Permission.Combination
import Dashboard.Proofs.Query.Cache
import Dashboard.Proofs.Query.EntryPoints
import Dashboard.Proofs.Listing.Page
import Dashboard.Proofs.Text.Lowercase
import Dashboard.Proofs.Account.Effect
import Dashboard.Proofs.Account.Agreement
import Dashboard.Proofs.Query.Scope
import Dashboard.Proofs.Query.Meaning
import Dashboard.Proofs.Query.Spelling
import Dashboard.Proofs.Query.Shape
import Dashboard.Proofs.Query.Correspondence
import Dashboard.Proofs.Json.Extension
import Dashboard.Proofs.Permission.Monotonicity
import Dashboard.Proofs.Number.Text
import Dashboard.Proofs.Listing.OrderedMap
import Dashboard.Proofs.Listing.Refinement
import Dashboard.Proofs.Account.SessionHistory
import Dashboard.Proofs.Server.Noninterference
import Dashboard.Proofs.Query.CacheQueue
import Dashboard.Proofs.Query.CacheCalls
import Dashboard.Proofs.Account.InFlight
import Dashboard.Proofs.Listing.Order
import Dashboard.Proofs.Query.Nesting
import Dashboard.Proofs.Query.Refusal
import Dashboard.Proofs.Query.Scanning
import Dashboard.Proofs.Query.Diagnosis
import Dashboard.Proofs.Query.Parentheses
import Dashboard.Proofs.Query.Composition
import Dashboard.Proofs.Text.OctetOrder
import Dashboard.Proofs.Json.Keys
import Dashboard.Proofs.Number.Rounding
import Dashboard.Proofs.Listing.Search
import Dashboard.Proofs.Listing.Integers
import Dashboard.Proofs.Deployment.Latest
import Dashboard.Proofs.Deployment.Overview
import Dashboard.Proofs.Deployment.Integers
import Dashboard.Proofs.Account.Registration
import Dashboard.Proofs.Account.Naming
import Dashboard.Proofs.Account.Login
import Dashboard.Proofs.Server.Login
import Dashboard.Proofs.Server.Bootstrap
import Dashboard.Proofs.Text.Trim
import Dashboard.Proofs.Listing.Failure
import Dashboard.Proofs.Listing.Interleaving
import Dashboard.Proofs.Text.Decimal
import Dashboard.Proofs.Listing.Parameters
import Dashboard.Proofs.Server.Listings
import Dashboard.Proofs.Text.Utf8
import Dashboard.Proofs.Json.Quoted
import Dashboard.Proofs.Log
import Dashboard.Proofs.Permission.Spelling
import Dashboard.Proofs.Permission.IndexedWalk
import Dashboard.Proofs.Permission.Relevance
import Dashboard.Proofs.Query.Fields
import Dashboard.Proofs.Query.Slices
