import IssueTracker.Api.Access
import IssueTracker.Api.Error
import IssueTracker.Api.ListRequest
import IssueTracker.Api.Location
import IssueTracker.Api.Operation
import IssueTracker.Api.Presentation
import IssueTracker.Api.Submission
import IssueTracker.Auth.Credential
import IssueTracker.Auth.Discovery
import IssueTracker.Auth.Envelope
import IssueTracker.Auth.Error
import IssueTracker.Auth.Identity
import IssueTracker.Auth.Jwk
import IssueTracker.Auth.Payload
import IssueTracker.Auth.Provider
import IssueTracker.Auth.Validator
import IssueTracker.Bytes
import IssueTracker.Bytes.Base64Url
import IssueTracker.Config
import IssueTracker.Crypto.Rsa
import IssueTracker.Crypto.Sha256
import IssueTracker.Http.Cors
import IssueTracker.Http.Fetch
import IssueTracker.Http.MediaType
import IssueTracker.Http.Message
import IssueTracker.Http.Status
import IssueTracker.Json.Basic
import IssueTracker.Json.Decode
import IssueTracker.Json.Number
import IssueTracker.Json.Reader
import IssueTracker.Json.Text
import IssueTracker.Json.Token
import IssueTracker.Json.Writer
import IssueTracker.Main
import IssueTracker.Number.Binary64
import IssueTracker.Number.Natural
import IssueTracker.Number.Shortest
import IssueTracker.Proofs.Api.Authorization
import IssueTracker.Proofs.Api.Routes
import IssueTracker.Proofs.Auth.Acceptance
import IssueTracker.Proofs.Auth.Agreement
import IssueTracker.Proofs.Auth.Credential
import IssueTracker.Proofs.Auth.Envelope
import IssueTracker.Proofs.Auth.Inspection
import IssueTracker.Proofs.Auth.Provider
import IssueTracker.Proofs.Bytes.Base64Url
import IssueTracker.Proofs.Except
import IssueTracker.Proofs.Json.Ending
import IssueTracker.Proofs.Json.Members
import IssueTracker.Proofs.Service.Admission
import IssueTracker.Proofs.Text.Split
import IssueTracker.Proofs.Text.Utf8
import IssueTracker.Service
import IssueTracker.Startup
import IssueTracker.Store.Call
import IssueTracker.Store.Collection
import IssueTracker.Store.Errand
import IssueTracker.Store.Listing
import IssueTracker.Store.Records
import IssueTracker.Text.Blank
import IssueTracker.Text.CaseTable
import IssueTracker.Text.CombiningTable
import IssueTracker.Text.Composed
import IssueTracker.Text.CompositionTable
import IssueTracker.Text.EscapedTable
import IssueTracker.Text.LowerCase
import IssueTracker.Text.Quoted
import IssueTracker.Text.Ranges
import IssueTracker.Text.Utf8
import IssueTracker.Time.Duration
import IssueTracker.Time.Instant
import IssueTracker.Url.Absolute
import IssueTracker.Url.Direction
import IssueTracker.Url.DirectionTable
import IssueTracker.Url.Domain
import IssueTracker.Url.DomainTable
import IssueTracker.Url.Form
import IssueTracker.Url.Ip
import IssueTracker.Url.Joining
import IssueTracker.Url.JoiningTable
import IssueTracker.Url.MarkTable
import IssueTracker.Url.Percent
import IssueTracker.Url.Punycode
import IssueTracker.Url.Target
import IssueTracker.Url.VariantTable
import IssueTracker.Uuid
import IssueTracker.Proofs.Auth.JsonForm
import IssueTracker.Proofs.Auth.Signatures
import IssueTracker.Proofs.Service.Interleaving
import IssueTracker.Proofs.Auth.JoseHeader
import IssueTracker.Proofs.Crypto.Rsa
import IssueTracker.Proofs.Auth.Verification
import IssueTracker.Proofs.Json.Numerals
import IssueTracker.Proofs.Json.Quoting
import IssueTracker.Proofs.Json.Writing
import IssueTracker.Proofs.Auth.Completeness
import IssueTracker.Proofs.Store.Effect
import IssueTracker.Proofs.Store.Sequence
import IssueTracker.Proofs.Store.Naming
import IssueTracker.Proofs.Store.History
import IssueTracker.Proofs.Store.Isolation
import IssueTracker.Proofs.Store.Resolution
import IssueTracker.Proofs.Text.Blank
import IssueTracker.Proofs.Store.DataModel
import IssueTracker.Proofs.Api.Submission
import IssueTracker.Proofs.Service.Integrity
import IssueTracker.Proofs.Api.Asking
import IssueTracker.Proofs.Service.Reception
import IssueTracker.Proofs.Store.Fulfilment
import IssueTracker.Proofs.Service.Writes
import IssueTracker.Proofs.Service.Nesting
import IssueTracker.Proofs.Service.Denial
import IssueTracker.Proofs.Service.Indifference
import IssueTracker.Proofs.Service.Provenance
import IssueTracker.Proofs.Store.Paging
import IssueTracker.Proofs.Service.Statuses
import IssueTracker.Proofs.Service.Concealment
import IssueTracker.Proofs.Api.Presentation
import IssueTracker.Proofs.Service.WriteBack
import IssueTracker.Proofs.Store.Keeping
import IssueTracker.Proofs.Auth.Scopes
import IssueTracker.Proofs.Auth.Forms
import IssueTracker.Proofs.Auth.Claims
import IssueTracker.Proofs.Settings.Loading
import IssueTracker.Proofs.Settings.Strictness
import IssueTracker.Proofs.Settings.AbsentClaims
import IssueTracker.Proofs.Number.Binary64
import IssueTracker.Proofs.Json.Fractions
import IssueTracker.Proofs.Auth.Timestamps
import IssueTracker.Proofs.Auth.ClaimOrder
import IssueTracker.Proofs.Auth.RequestHistory
import IssueTracker.Proofs.Bytes.WrittenForm
import IssueTracker.Proofs.Auth.CanonicalPayload
import IssueTracker.Proofs.Text.LowerCase
import IssueTracker.Proofs.Service.Searching
import IssueTracker.Proofs.Api.Layout
import IssueTracker.Proofs.Service.Routing
import IssueTracker.Proofs.Service.Headers
import IssueTracker.Proofs.Service.Origins
