import SupplyCatalog.Attachment
import SupplyCatalog.Bundle
import SupplyCatalog.Company
import SupplyCatalog.Currency
import SupplyCatalog.Detail
import SupplyCatalog.FieldErrors
import SupplyCatalog.Http.MediaType
import SupplyCatalog.Http.Message
import SupplyCatalog.Http.Route
import SupplyCatalog.Http.Status
import SupplyCatalog.Image
import SupplyCatalog.Json.Basic
import SupplyCatalog.Json.Decode
import SupplyCatalog.Json.Parser
import SupplyCatalog.Json.Printer
import SupplyCatalog.ManufacturerPart
import SupplyCatalog.Media.Address
import SupplyCatalog.Media.Tree
import SupplyCatalog.Number.CompensatedSum
import SupplyCatalog.Number.Decimal
import SupplyCatalog.Number.DecimalReal
import SupplyCatalog.Number.DecimalText
import SupplyCatalog.Number.Integer
import SupplyCatalog.Number.RealText
import SupplyCatalog.Number.Shortest
import SupplyCatalog.Part
import SupplyCatalog.Payload.Attachment
import SupplyCatalog.Payload.Basic
import SupplyCatalog.Payload.Company
import SupplyCatalog.Payload.ManufacturerPart
import SupplyCatalog.Payload.SupplierPart
import SupplyCatalog.Payload.Value
import SupplyCatalog.Proofs.AttachedFile
import SupplyCatalog.Proofs.Availability
import SupplyCatalog.Proofs.BasePart
import SupplyCatalog.Proofs.Builder
import SupplyCatalog.Proofs.ByteOrder
import SupplyCatalog.Proofs.Calendar
import SupplyCatalog.Proofs.Cascade
import SupplyCatalog.Proofs.Change
import SupplyCatalog.Proofs.Commit
import SupplyCatalog.Proofs.Decimal
import SupplyCatalog.Proofs.Draft
import SupplyCatalog.Proofs.ErrorMap
import SupplyCatalog.Proofs.Failure
import SupplyCatalog.Proofs.FieldRule
import SupplyCatalog.Proofs.Form
import SupplyCatalog.Proofs.FreePath
import SupplyCatalog.Proofs.ImageFile
import SupplyCatalog.Proofs.Integrity
import SupplyCatalog.Proofs.Journal
import SupplyCatalog.Proofs.KeyHistory
import SupplyCatalog.Proofs.Listing
import SupplyCatalog.Proofs.ManufacturerLink
import SupplyCatalog.Proofs.MediaFile
import SupplyCatalog.Proofs.MediaLayout
import SupplyCatalog.Proofs.MediaPath
import SupplyCatalog.Proofs.MediaRow
import SupplyCatalog.Proofs.MergedUpdate
import SupplyCatalog.Proofs.Operation
import SupplyCatalog.Proofs.OrphanFile
import SupplyCatalog.Proofs.Outcome
import SupplyCatalog.Proofs.Payload
import SupplyCatalog.Proofs.PayloadForm
import SupplyCatalog.Proofs.PlainText
import SupplyCatalog.Proofs.Precision
import SupplyCatalog.Proofs.PutBack
import SupplyCatalog.Proofs.ReadBack
import SupplyCatalog.Proofs.Reading
import SupplyCatalog.Proofs.Removal
import SupplyCatalog.Proofs.ReportedQuantity
import SupplyCatalog.Proofs.Request
import SupplyCatalog.Proofs.RequestRule
import SupplyCatalog.Proofs.Roles
import SupplyCatalog.Proofs.RowOrigin
import SupplyCatalog.Proofs.RowRule
import SupplyCatalog.Proofs.Run
import SupplyCatalog.Proofs.ServiceRun
import SupplyCatalog.Proofs.ShippedStock
import SupplyCatalog.Proofs.ShownValue
import SupplyCatalog.Proofs.StatementText
import SupplyCatalog.Proofs.StoredRule
import SupplyCatalog.Proofs.StoredText
import SupplyCatalog.Proofs.Success
import SupplyCatalog.Proofs.SupplierDraft
import SupplyCatalog.Proofs.Table
import SupplyCatalog.Proofs.TimeText
import SupplyCatalog.Proofs.Validation
import SupplyCatalog.Proofs.Write
import SupplyCatalog.Query
import SupplyCatalog.Record.Catalog
import SupplyCatalog.Record.Changes
import SupplyCatalog.Record.Query
import SupplyCatalog.Record.Supply
import SupplyCatalog.RemoteImage
import SupplyCatalog.Service
import SupplyCatalog.ServiceError
import SupplyCatalog.Settings
import SupplyCatalog.Sql.Attachment
import SupplyCatalog.Sql.Company
import SupplyCatalog.Sql.ManufacturerPart
import SupplyCatalog.Sql.Part
import SupplyCatalog.Sql.Schema
import SupplyCatalog.Sql.Statement
import SupplyCatalog.Sql.SupplierPart
import SupplyCatalog.Sql.Value
import SupplyCatalog.StockItem
import SupplyCatalog.Store.Attachment
import SupplyCatalog.Store.Basic
import SupplyCatalog.Store.Catalogue
import SupplyCatalog.Store.Company
import SupplyCatalog.Store.Database
import SupplyCatalog.Store.ManufacturerPart
import SupplyCatalog.Store.Reading
import SupplyCatalog.Store.Reference
import SupplyCatalog.Store.SupplierPart
import SupplyCatalog.Store.Table
import SupplyCatalog.SupplierPart
import SupplyCatalog.Text.AsciiCase
import SupplyCatalog.Text.Base64
import SupplyCatalog.Text.Blank
import SupplyCatalog.Text.CanonicalSpelling
import SupplyCatalog.Text.CodeRun
import SupplyCatalog.Text.CombiningClass
import SupplyCatalog.Text.Composition
import SupplyCatalog.Text.Direction
import SupplyCatalog.Text.HangulSyllable
import SupplyCatalog.Text.Hexadecimal
import SupplyCatalog.Text.Joining
import SupplyCatalog.Text.Like
import SupplyCatalog.Text.Mark
import SupplyCatalog.Text.Split
import SupplyCatalog.Text.Utf8
import SupplyCatalog.Time.Date
import SupplyCatalog.Time.Instant
import SupplyCatalog.Toml.Basic
import SupplyCatalog.Toml.Document
import SupplyCatalog.Toml.Scalar
import SupplyCatalog.Url.Basic
import SupplyCatalog.Url.DomainCharacter
import SupplyCatalog.Url.DomainLabel
import SupplyCatalog.Url.DomainSpelling
import SupplyCatalog.Url.DomainText
import SupplyCatalog.Url.Form
import SupplyCatalog.Url.Host
import SupplyCatalog.Url.Ip
import SupplyCatalog.Url.PercentEncoding
import SupplyCatalog.Url.Punycode
import SupplyCatalog.Url.RefusedCharacter
import SupplyCatalog.Url.Request
import SupplyCatalog.View.Attachment
import SupplyCatalog.View.Company
import SupplyCatalog.View.ManufacturerPart
import SupplyCatalog.View.SupplierPart
import SupplyCatalog.Violation
import SupplyCatalog.Proofs.RepeatedUpdate
import SupplyCatalog.Proofs.ConcurrentImage
import SupplyCatalog.Proofs.Search
import SupplyCatalog.Proofs.WrittenNumber
import SupplyCatalog.Proofs.LinkKeys
import SupplyCatalog.Proofs.ShownDetail
import SupplyCatalog.Proofs.FetchedImage
import SupplyCatalog.Proofs.StoredPath
import SupplyCatalog.Proofs.StoredDecimal
import SupplyCatalog.Proofs.AttachmentForm
import SupplyCatalog.Proofs.CurrencyCodes
import SupplyCatalog.Proofs.StagedFile
import SupplyCatalog.Proofs.RecordedMessage
