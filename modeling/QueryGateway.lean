import QueryGateway.Access.Header
import QueryGateway.Access.Resolver
import QueryGateway.Access.Token
import QueryGateway.Adapter
import QueryGateway.Adapters
import QueryGateway.CommandLine.Arguments
import QueryGateway.CommandLine.Commands
import QueryGateway.Configuration.Basic
import QueryGateway.Configuration.Boot
import QueryGateway.Configuration.Validation
import QueryGateway.Dictionary
import QueryGateway.Digest.Sha256
import QueryGateway.Document.Collection
import QueryGateway.Document.Command
import QueryGateway.Document.Error
import QueryGateway.Document.Filter
import QueryGateway.Document.Order
import QueryGateway.Document.Projection
import QueryGateway.Document.Sort
import QueryGateway.Document.Store
import QueryGateway.Document.Template
import QueryGateway.Document.Update
import QueryGateway.DomainName.Basic
import QueryGateway.DomainName.Composition
import QueryGateway.DomainName.Direction
import QueryGateway.DomainName.Joining
import QueryGateway.DomainName.Mapping
import QueryGateway.DomainName.Punycode
import QueryGateway.Event
import QueryGateway.Expression.Basic
import QueryGateway.Expression.Context
import QueryGateway.Expression.Evaluation
import QueryGateway.Expression.Reader
import QueryGateway.Expression.Segments
import QueryGateway.Expression.Value
import QueryGateway.FailureKind
import QueryGateway.Json.Basic
import QueryGateway.Json.Numeral
import QueryGateway.Json.Path
import QueryGateway.Json.Printer
import QueryGateway.Json.Reader
import QueryGateway.Json.Record
import QueryGateway.Json.Source
import QueryGateway.Main
import QueryGateway.Network.IpAddress
import QueryGateway.Number.Basic
import QueryGateway.Number.Binary64
import QueryGateway.Number.Decimal
import QueryGateway.Number.Scaling
import QueryGateway.Number.Shortest
import QueryGateway.Number.Text
import QueryGateway.Request.Basic
import QueryGateway.Request.Query
import QueryGateway.Response.FieldMap
import QueryGateway.Response.Pointer
import QueryGateway.Response.Shape
import QueryGateway.Route.Basic
import QueryGateway.Route.Compilation
import QueryGateway.Route.Definition
import QueryGateway.Route.Pattern
import QueryGateway.Router.Basic
import QueryGateway.Router.Failure
import QueryGateway.Router.Handling
import QueryGateway.Service.Basic
import QueryGateway.Service.Cors
import QueryGateway.Service.Settings
import QueryGateway.Sql.Bind
import QueryGateway.Sql.ConnectionUrl
import QueryGateway.Sql.Statement
import QueryGateway.Supply
import QueryGateway.Text.Base64Url
import QueryGateway.Text.Blank
import QueryGateway.Text.Hex
import QueryGateway.Text.Ranges
import QueryGateway.Text.Split
import QueryGateway.Text.Utf8
import QueryGateway.Text.Visibility
import QueryGateway.Url.Basic
import QueryGateway.Url.Host
import QueryGateway.Proofs.Json.Fields
import QueryGateway.Proofs.Json.Names
import QueryGateway.Proofs.Json.Equality
import QueryGateway.Proofs.Dictionary
import QueryGateway.Proofs.Document.Update
import QueryGateway.Proofs.Document.Write
import QueryGateway.Proofs.Document.Identity
import QueryGateway.Proofs.Document.Failure
import QueryGateway.Proofs.Expression.Reader
import QueryGateway.Proofs.Expression.Segments
import QueryGateway.Proofs.Expression.Evaluation
import QueryGateway.Proofs.Sql.Statement
import QueryGateway.Proofs.Document.Filling
import QueryGateway.Proofs.Document.Operators
import QueryGateway.Proofs.Expression.Balance
import QueryGateway.Proofs.Expression.Numeral
import QueryGateway.Proofs.Expression.Parts
import QueryGateway.Proofs.Expression.Spelling
import QueryGateway.Proofs.Expression.Reading
import QueryGateway.Proofs.Expression.Written
import QueryGateway.Proofs.Expression.Templates
import QueryGateway.Proofs.Route.Compilation
import QueryGateway.Proofs.Document.Readable
import QueryGateway.Proofs.Document.Validation
import QueryGateway.Proofs.Adapter
import QueryGateway.Proofs.Router.Boot
import QueryGateway.Proofs.Router.Failures
import QueryGateway.Proofs.Router.Claims
import QueryGateway.Proofs.Document.Matching
import QueryGateway.Proofs.Document.Pipeline
import QueryGateway.Proofs.Number.Exact
import QueryGateway.Proofs.Document.Selection
import QueryGateway.Proofs.Document.Key
import QueryGateway.Proofs.Document.Absence
import QueryGateway.Proofs.Router.Absence
import QueryGateway.Proofs.Access.Acceptance
import QueryGateway.Proofs.Document.Tally
import QueryGateway.Proofs.Router.Course
import QueryGateway.Proofs.Router.Order
import QueryGateway.Proofs.Text.Utf8
import QueryGateway.Proofs.Text.Percent
import QueryGateway.Proofs.Route.Fitting
import QueryGateway.Proofs.Route.Replacement
import QueryGateway.Proofs.Route.Matching
import QueryGateway.Proofs.Document.Below
import QueryGateway.Proofs.Document.Targets
import QueryGateway.Proofs.Document.Upsert
import QueryGateway.Proofs.Json.Reading
import QueryGateway.Proofs.Document.Projection
import QueryGateway.Proofs.Document.Independence
import QueryGateway.Proofs.Document.UpdateOrder
import QueryGateway.Proofs.Response.FieldMap
import QueryGateway.Proofs.Service.Refusal
import QueryGateway.Proofs.Document.Denotation
import QueryGateway.Proofs.Document.Reordering
import QueryGateway.Proofs.Document.Faults
import QueryGateway.Proofs.Document.Preorder
import QueryGateway.Proofs.Route.Grammar
import QueryGateway.Proofs.Number.Rounding
import QueryGateway.Proofs.Document.Integers
import QueryGateway.Proofs.Document.Increment
import QueryGateway.Proofs.Expression.Splicing
import QueryGateway.Proofs.Document.Resolution
import QueryGateway.Proofs.Text.Form
import QueryGateway.Proofs.Request.Query
import QueryGateway.Proofs.Document.Insertion
import QueryGateway.Proofs.Sql.Placeholders
import QueryGateway.Proofs.Sql.Bind
import QueryGateway.Proofs.Expression.Places
import QueryGateway.Proofs.Expression.Arguments
import QueryGateway.Proofs.Document.InPlace
