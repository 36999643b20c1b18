import ErpGateway.Calendar.Date
import ErpGateway.Calendar.Moment
import ErpGateway.Cli.Arguments
import ErpGateway.Cli.Complaint
import ErpGateway.Cli.Help
import ErpGateway.Cli.Program
import ErpGateway.Config.Cause
import ErpGateway.Config.Decoding
import ErpGateway.Config.DotEnv
import ErpGateway.Config.Listen
import ErpGateway.Config.Load
import ErpGateway.Config.Path
import ErpGateway.Config.Problem
import ErpGateway.Config.Settings
import ErpGateway.Config.Value
import ErpGateway.Decimal.Binary64
import ErpGateway.Decimal.Integer
import ErpGateway.Decimal.Layout
import ErpGateway.Decimal.Power
import ErpGateway.Decimal.Reading
import ErpGateway.Decimal.Shortest
import ErpGateway.Decimal.Signed
import ErpGateway.Dialogue
import ErpGateway.Erp.Backend
import ErpGateway.Erp.Hasavshevet.Answer
import ErpGateway.Erp.Hasavshevet.Rows
import ErpGateway.Erp.Hasavshevet.Statements
import ErpGateway.Erp.Sap.Answer
import ErpGateway.Erp.Sap.Snapshot
import ErpGateway.Erp.Sap.Statements
import ErpGateway.Failure
import ErpGateway.Files
import ErpGateway.Gate.Admission
import ErpGateway.Gate.Literal
import ErpGateway.Gate.Parameter
import ErpGateway.Gate.ReadOnly
import ErpGateway.Gate.Rejection
import ErpGateway.Gate.RowControl
import ErpGateway.Http.Bearer
import ErpGateway.Http.Body
import ErpGateway.Http.Refusal
import ErpGateway.Http.Server
import ErpGateway.Json.Basic
import ErpGateway.Json.Document
import ErpGateway.Json.Fault
import ErpGateway.Json.Fault.Find
import ErpGateway.Json.Fault.Token
import ErpGateway.Json.Number
import ErpGateway.Json.Printer
import ErpGateway.Json.Reading
import ErpGateway.Json.Record
import ErpGateway.Keyed
import ErpGateway.Log
import ErpGateway.Main
import ErpGateway.Pricing.Cascade
import ErpGateway.Pricing.Discount
import ErpGateway.Pricing.Item
import ErpGateway.Pricing.Kit
import ErpGateway.Pricing.Least
import ErpGateway.Pricing.Quote
import ErpGateway.Pricing.Request
import ErpGateway.Pricing.Stock
import ErpGateway.Pricing.Transaction
import ErpGateway.Proofs.Gate.Delimiters
import ErpGateway.Proofs.Gate.LiteralContent
import ErpGateway.Proofs.Gate.Literals
import ErpGateway.Proofs.Gate.Verdict
import ErpGateway.Proofs.Http.AdHocRoute
import ErpGateway.Proofs.Text.Trim
import ErpGateway.Secret
import ErpGateway.Service.AdHoc
import ErpGateway.Service.PriceStock
import ErpGateway.Sql.Cell
import ErpGateway.Sql.Column
import ErpGateway.Sql.Connection
import ErpGateway.Sql.Harvest
import ErpGateway.Sql.Invocation
import ErpGateway.Sql.Scalar
import ErpGateway.Sql.Scripted
import ErpGateway.Sql.Statement
import ErpGateway.Text.Ascii
import ErpGateway.Text.Blank
import ErpGateway.Text.CharClass
import ErpGateway.Text.ControlSequence
import ErpGateway.Text.LowerCase
import ErpGateway.Text.Order
import ErpGateway.Text.Printable
import ErpGateway.Text.Quoted
import ErpGateway.Text.Search
import ErpGateway.Text.Similarity
import ErpGateway.Text.Utf8
import ErpGateway.Proofs.Gate.RowControls
import ErpGateway.Proofs.Decimal.Integers
import ErpGateway.Proofs.Gate.Bindings
import ErpGateway.Proofs.Sql.Invocation
import ErpGateway.Proofs.Sql.Tokens
import ErpGateway.Proofs.Text.Search
import ErpGateway.Proofs.Erp.Template
import ErpGateway.Proofs.Erp.WellFormed
import ErpGateway.Proofs.Dialogue
import ErpGateway.Proofs.Erp.Statements
import ErpGateway.Proofs.Erp.ClosedForm
import ErpGateway.Proofs.Keyed
import ErpGateway.Proofs.Pricing.Kit
import ErpGateway.Proofs.Sql.Rows
import ErpGateway.Proofs.Erp.OwnRows
import ErpGateway.Proofs.Pricing.Items
import ErpGateway.Proofs.Erp.Batch
import ErpGateway.Proofs.Erp.Script
import ErpGateway.Proofs.Lockstep
import ErpGateway.Proofs.Erp.Spelling
import ErpGateway.Proofs.Pricing.Agreement
import ErpGateway.Proofs.Erp.Content
import ErpGateway.Proofs.Erp.Batching
import ErpGateway.Proofs.Erp.Told
import ErpGateway.Proofs.Erp.ParentRules
import ErpGateway.Proofs.Erp.Respelling
import ErpGateway.Proofs.Http.FailureText
import ErpGateway.Proofs.Pricing.Invariant
import ErpGateway.Proofs.Config.Folding
import ErpGateway.Proofs.Config.Setting
import ErpGateway.Proofs.Config.Layers
import ErpGateway.Proofs.Config.Decoding
import ErpGateway.Proofs.Config.Environment
import ErpGateway.Proofs.Sql.Harvest
import ErpGateway.Proofs.Gate.BindingOrder
import ErpGateway.Proofs.Pricing.Least
import ErpGateway.Proofs.Erp.KitStock
import ErpGateway.Proofs.Decimal.Order
import ErpGateway.Proofs.Pricing.WinningRule
import ErpGateway.Proofs.Pricing.RuleOrder
import ErpGateway.Proofs.Pricing.LastPrices
import ErpGateway.Proofs.Gate.Padding
import ErpGateway.Proofs.Http.WholeBody
import ErpGateway.Proofs.Gate.Lexemes
import ErpGateway.Proofs.Http.Bearer
import ErpGateway.Proofs.Config.Restated
import ErpGateway.Proofs.Calendar.Days
import ErpGateway.Proofs.Decimal.Fixed
import ErpGateway.Proofs.Calendar.DateText
import ErpGateway.Proofs.Erp.AsOf
import ErpGateway.Proofs.Http.PriceDate
import ErpGateway.Proofs.Pricing.Stock
import ErpGateway.Proofs.Pricing.Clamped
import ErpGateway.Proofs.Files
import ErpGateway.Proofs.Secret.FileName
import ErpGateway.Proofs.Secret.Store
import ErpGateway.Proofs.Secret.Containment
import ErpGateway.Proofs.Text.Octets
import ErpGateway.Proofs.Files.Way
import ErpGateway.Proofs.Secret.Beside
import ErpGateway.Proofs.Config.Unread
import ErpGateway.Proofs.Config.Reload
import ErpGateway.Proofs.Cli.Password
import ErpGateway.Proofs.Config.Listen
import ErpGateway.Proofs.Gate.Blanking
