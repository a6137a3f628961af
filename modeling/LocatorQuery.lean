import LocatorQuery.Query.Condition
import LocatorQuery.Json.Printer
import LocatorQuery.Schema.FromJson
import LocatorQuery.Schema.FromYaml
import LocatorQuery.Catalog.Basic
import LocatorQuery.Scope.Query
import LocatorQuery.Service.Session
import LocatorQuery.Main
import LocatorQuery.Proofs.Locator.RoundTrip
import LocatorQuery.Proofs.Query.Reference
import LocatorQuery.Proofs.Scope.Grouping
import LocatorQuery.Proofs.Locator.Delivery
import LocatorQuery.Proofs.Locator.Remaining
import LocatorQuery.Proofs.Text.Numeral
import LocatorQuery.Proofs.Query.Selection
import LocatorQuery.Proofs.Query.Walk
import LocatorQuery.Proofs.Scope.Agreement
import LocatorQuery.Proofs.Query.Limit
import LocatorQuery.Proofs.Catalog.Completeness
import LocatorQuery.Proofs.Service.Canonical
import LocatorQuery.Proofs.Query.ByKey
import LocatorQuery.Proofs.Locator.Leftover
import LocatorQuery.Proofs.Query.Reordering
import LocatorQuery.Proofs.Query.Leniency
import LocatorQuery.Proofs.Catalog.Leniency
import LocatorQuery.Proofs.Query.Narrowing
import LocatorQuery.Proofs.Catalog.NestedBuilds
import LocatorQuery.Proofs.Catalog.Spellings
import LocatorQuery.Proofs.Catalog.Resolution
import LocatorQuery.Proofs.Query.Independence
import LocatorQuery.Proofs.Service.Independence
import LocatorQuery.Proofs.Scope.RollUp
import LocatorQuery.Proofs.Schema.Dataset
import LocatorQuery.Proofs.Service.OneShot
import LocatorQuery.Proofs.Query.Continuation
import LocatorQuery.Proofs.Query.Refusal
import LocatorQuery.Proofs.Catalog.Refusal
import LocatorQuery.Proofs.Scope.Refusal
import LocatorQuery.Proofs.Service.Missing
import LocatorQuery.Proofs.Locator.Surplus
import LocatorQuery.Proofs.Query.Surplus
import LocatorQuery.Proofs.Item.TestName
import LocatorQuery.Proofs.Item.Convention
import LocatorQuery.Proofs.Scope.Grammar
import LocatorQuery.Proofs.Scope.Offenders
import LocatorQuery.Proofs.Catalog.Duration
import LocatorQuery.Proofs.Locator.Balance
import LocatorQuery.Proofs.Item.Parameters
import LocatorQuery.Proofs.Query.Condition
import LocatorQuery.Proofs.Query.Words
