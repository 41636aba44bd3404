import SpaceTeamSite.Text.Blank
import SpaceTeamSite.Text.Escape
import SpaceTeamSite.Text.Digits
import SpaceTeamSite.Http.Status
import SpaceTeamSite.Error
import SpaceTeamSite.I18n.TextKey
import SpaceTeamSite.I18n.Catalog.Turkish
import SpaceTeamSite.I18n.Catalog.English
import SpaceTeamSite.I18n.Language
import SpaceTeamSite.I18n.Fallback
import SpaceTeamSite.I18n.TextTable
import SpaceTeamSite.Calendar.Date
import SpaceTeamSite.Calendar.Offset
import SpaceTeamSite.Calendar.Timestamp
import SpaceTeamSite.Calendar.DayText
import SpaceTeamSite.Number.Fixed
import SpaceTeamSite.Format.Month
import SpaceTeamSite.Format.Dates
import SpaceTeamSite.Format.Compact
import SpaceTeamSite.Json.Value
import SpaceTeamSite.Json.Parse
import SpaceTeamSite.Json.Reader
import SpaceTeamSite.Json.Decode
import SpaceTeamSite.Record.Launch
import SpaceTeamSite.Record.Picture
import SpaceTeamSite.Site.Samples
import SpaceTeamSite.Toml.Value
import SpaceTeamSite.Toml.Lexeme
import SpaceTeamSite.Toml.Scalar
import SpaceTeamSite.Toml.Tree
import SpaceTeamSite.Toml.Document
import SpaceTeamSite.Toml.Decode
import SpaceTeamSite.Toml.Plain
import SpaceTeamSite.I18n.Overrides
import SpaceTeamSite.Config.Basic
import SpaceTeamSite.Config.Decode
import SpaceTeamSite.Host.Files
import SpaceTeamSite.Config.Load
import SpaceTeamSite.Feed.Answers
import SpaceTeamSite.Widget.Layout
import SpaceTeamSite.Widget.Viewport
import SpaceTeamSite.Widget.Launches
import SpaceTeamSite.Widget.Picture
import SpaceTeamSite.Widget.Fetch
import SpaceTeamSite.Site.Views
import SpaceTeamSite.Site.Params
import SpaceTeamSite.Site.Content
import SpaceTeamSite.Site.Page
import SpaceTeamSite.Site.Setup
import SpaceTeamSite.Text.Utf8
import SpaceTeamSite.Http.Query
import SpaceTeamSite.Site.Api
import SpaceTeamSite.Http.Router
import SpaceTeamSite.Cli.Program
import SpaceTeamSite.Main
import SpaceTeamSite.Http.Target
import SpaceTeamSite.Http.Method
import SpaceTeamSite.Log.Filter
import SpaceTeamSite.Log.Events
import SpaceTeamSite.Proofs.TextLookup
import SpaceTeamSite.Proofs.TagSearch
import SpaceTeamSite.Proofs.LaunchesWidget
import SpaceTeamSite.Proofs.ListOpeners
import SpaceTeamSite.Proofs.PageLoad
import SpaceTeamSite.Proofs.MarkupShape
import SpaceTeamSite.Proofs.PictureView
import SpaceTeamSite.Proofs.SingleFetch
import SpaceTeamSite.Proofs.OverrideOrder
import SpaceTeamSite.Proofs.TagReader
import SpaceTeamSite.Proofs.PageOutline
import SpaceTeamSite.Proofs.EscapeDecoding
import SpaceTeamSite.Proofs.LinkParams
import SpaceTeamSite.Proofs.CardPolicy
import SpaceTeamSite.Proofs.DayNumber
import SpaceTeamSite.Proofs.TimestampGrammar
import SpaceTeamSite.Proofs.LaunchClock
import SpaceTeamSite.Proofs.ResizeDelivery
import SpaceTeamSite.Proofs.PictureDates
import SpaceTeamSite.Proofs.ConfigValidation
