import Herald.Backoff
import Herald.Bag
import Herald.Bag.Codec
import Herald.Bell
import Herald.Channel
import Herald.Channel.Feed
import Herald.Channel.Mail
import Herald.Channel.Webhook
import Herald.Config
import Herald.Container
import Herald.Content
import Herald.Content.Directory
import Herald.Delivery
import Herald.Dict
import Herald.Dispatcher
import Herald.Double.Basic
import Herald.Double.Decimal
import Herald.Double.Text
import Herald.Engine
import Herald.FanOut
import Herald.Fault
import Herald.Files
import Herald.Hall
import Herald.Http
import Herald.Json.Basic
import Herald.Json.Doc
import Herald.Json.Fields
import Herald.Json.Lookup
import Herald.Json.Number
import Herald.Json.Printer
import Herald.Json.Reader
import Herald.KeyLock
import Herald.KeyLock.Holders
import Herald.LogFilter
import Herald.Main
import Herald.Message
import Herald.Message.Codec
import Herald.Named
import Herald.Notification
import Herald.Notification.Codec
import Herald.Preferences
import Herald.Preferences.Codec
import Herald.Proofs.Bag.Defaults
import Herald.Proofs.Bag.Exactness
import Herald.Proofs.Bag.Fidelity
import Herald.Proofs.Bag.Legibility
import Herald.Proofs.Codec.Fields
import Herald.Proofs.Codec.Readings
import Herald.Proofs.Codec.RoundTrip
import Herald.Proofs.Config.Startup
import Herald.Proofs.Content.Directory
import Herald.Proofs.Content.Precedence
import Herald.Proofs.Delivery.Alone
import Herald.Proofs.Delivery.AtOnce
import Herald.Proofs.Delivery.Claims
import Herald.Proofs.Delivery.Footprint
import Herald.Proofs.Delivery.SingleFlight
import Herald.Proofs.Delivery.Steps
import Herald.Proofs.Delivery.Waiting
import Herald.Proofs.Dispatcher.Draining
import Herald.Proofs.Dispatcher.Errand
import Herald.Proofs.Dispatcher.Recipients
import Herald.Proofs.Double.Precision
import Herald.Proofs.Engine.Pool
import Herald.Proofs.Engine.Shutdown
import Herald.Proofs.Engine.Wakefulness
import Herald.Proofs.Engine.Worker
import Herald.Proofs.FanOut.Account
import Herald.Proofs.FanOut.Frame
import Herald.Proofs.FanOut.Reordering
import Herald.Proofs.Fault.Messages
import Herald.Proofs.Feed.Items
import Herald.Proofs.Feed.Seclusion
import Herald.Proofs.Json.Literals
import Herald.Proofs.Json.Reading
import Herald.Proofs.KeyLock.Exclusion
import Herald.Proofs.Mail.Address
import Herald.Proofs.Mail.Posting
import Herald.Proofs.Mail.Rotation
import Herald.Proofs.Message.Format
import Herald.Proofs.Message.Normalizing
import Herald.Proofs.Notification.Attempts
import Herald.Proofs.Notification.Lifecycle
import Herald.Proofs.Retry.Backoff
import Herald.Proofs.Retry.Deferral
import Herald.Proofs.Roster.Replacement
import Herald.Proofs.Service.Enqueue
import Herald.Proofs.Store.Agreement
import Herald.Proofs.Store.Healing
import Herald.Proofs.Store.Numbers
import Herald.Proofs.Store.Order
import Herald.Proofs.Store.Paging
import Herald.Proofs.Store.Postponement
import Herald.Proofs.Store.Readiness
import Herald.Proofs.Store.Records
import Herald.Proofs.Store.Requests
import Herald.Proofs.Store.Retention
import Herald.Proofs.Store.Rows
import Herald.Proofs.Template.Containment
import Herald.Proofs.Template.Placeholders
import Herald.Proofs.Text.Quoting
import Herald.Proofs.Time.Delay
import Herald.Proofs.Time.Milliseconds
import Herald.Proofs.Time.Timestamps
import Herald.Push
import Herald.Registry
import Herald.Rehearsal
import Herald.Rehearsal.Script
import Herald.Retry
import Herald.Roster
import Herald.Service
import Herald.Store
import Herald.Store.Location
import Herald.Store.Memory
import Herald.Store.Order
import Herald.Store.Row
import Herald.Store.Table
import Herald.Template
import Herald.Text.Blank
import Herald.Text.Composed
import Herald.Text.Direction
import Herald.Text.Joining
import Herald.Text.Letters
import Herald.Text.Lines
import Herald.Text.Marks
import Herald.Text.Natural
import Herald.Text.Quoted
import Herald.Text.Ranges
import Herald.Text.Table
import Herald.Text.Unseen
import Herald.Text.Uuid
import Herald.Time.Calendar
import Herald.Time.Instant
import Herald.Time.Rfc3339
import Herald.Time.Span
import Herald.Url.Basic
import Herald.Url.Domain
import Herald.Url.Folding
import Herald.Url.Host
import Herald.Url.Punycode
import Herald.Url.Reader
import Herald.Worker
