import SoilWatch.Http.Routes
import SoilWatch.Proofs.Atomicity
import SoilWatch.Proofs.Attribution
import SoilWatch.Proofs.Blind
import SoilWatch.Proofs.Bus.Agreement
import SoilWatch.Proofs.Bus.BrokerUrl
import SoilWatch.Proofs.Completion
import SoilWatch.Proofs.DeviceViews
import SoilWatch.Proofs.Http.Gate
import SoilWatch.Proofs.Http.PasswordForm
import SoilWatch.Proofs.Http.ResetLink
import SoilWatch.Proofs.Http.ResetRequests
import SoilWatch.Proofs.Http.SeriesQueries
import SoilWatch.Proofs.Independence
import SoilWatch.Proofs.Isolation
import SoilWatch.Proofs.Json.Grammar
import SoilWatch.Proofs.Json.Scan
import SoilWatch.Proofs.Json.Skip
import SoilWatch.Proofs.Lifecycle
import SoilWatch.Proofs.Owners
import SoilWatch.Proofs.PasswordChanges
import SoilWatch.Proofs.Passwords
import SoilWatch.Proofs.RangeBounds
import SoilWatch.Proofs.ResetTokens
import SoilWatch.Proofs.Series
import SoilWatch.Proofs.Service.Alone
import SoilWatch.Proofs.Service.Amid
import SoilWatch.Proofs.Service.Changes
import SoilWatch.Proofs.Service.Moves
import SoilWatch.Proofs.Service.Turns
import SoilWatch.Proofs.Sessions
import SoilWatch.Proofs.SignUps
import SoilWatch.Proofs.Store.Consistency
import SoilWatch.Proofs.Store.Forgetting
import SoilWatch.Proofs.Store.Holders
import SoilWatch.Proofs.Template
import SoilWatch.Proofs.Text.Base64
import SoilWatch.Proofs.Text.Digits
import SoilWatch.Proofs.Text.Integer
import SoilWatch.Proofs.Text.Markup
import SoilWatch.Proofs.Text.Utf8
import SoilWatch.Proofs.Time.Calendar
import SoilWatch.Proofs.Time.Rfc3339
import SoilWatch.Proofs.Time.WallClock
import SoilWatch.Proofs.Wire.Codec
import SoilWatch.Proofs.Wire.Members
import SoilWatch.Proofs.Wire.Object
import SoilWatch.Proofs.Wire.Record
