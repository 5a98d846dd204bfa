import SistemAir.Library.KeyedTable
import SistemAir.Library.Program
import SistemAir.Library.HtmlForm
import SistemAir.Library.Json
import SistemAir.Library.JsonParse
import SistemAir.Library.Markup
import SistemAir.Library.Window
import SistemAir.Library.Faults
import SistemAir.Library.Trace
import SistemAir.Library.Pool
import SistemAir.Library.Workers
import SistemAir.Library.Chain
import SistemAir.Library.Groups
import SistemAir.Library.Urlencoded
import SistemAir.Library.Href
import SistemAir.Model.Clock
import SistemAir.Model.Schema
import SistemAir.Model.Request
import SistemAir.Model.Statement
import SistemAir.Model.Func
import SistemAir.Model.LoginIndex
import SistemAir.Model.Index
import SistemAir.Model.Forms
import SistemAir.Model.World
import SistemAir.Model.Teks
import SistemAir.Model.Select
import SistemAir.Model.Ajax
import SistemAir.Model.Page
import SistemAir.Model.Tautan
import SistemAir.Spec.Guard
import SistemAir.Spec.Handlers
import SistemAir.Spec.Change
import SistemAir.Spec.Confinement
import SistemAir.Spec.Readings
import SistemAir.Spec.Billing
import SistemAir.Spec.Status
import SistemAir.Spec.Ghosts
import SistemAir.Spec.Forms
import SistemAir.Spec.LostUpdate
import SistemAir.Spec.MonthlyRace
import SistemAir.Spec.LastMeter
import SistemAir.Spec.Continuity
import SistemAir.Spec.Resubmission
import SistemAir.Spec.Passwords
import SistemAir.Spec.Audit
import SistemAir.Spec.AjaxIsolation
import SistemAir.Spec.Sessions
import SistemAir.Spec.IdleSessions
import SistemAir.Spec.MonthlyClocks
import SistemAir.Spec.LoginLimit
import SistemAir.Spec.Page
import SistemAir.Spec.EditLinks
import SistemAir.Spec.Freeze
import SistemAir.Spec.PageIsolation
import SistemAir.Spec.PageTags
import SistemAir.Spec.PageMarkup
import SistemAir.Spec.Failures
import SistemAir.Spec.Access
import SistemAir.Spec.Evidence
import SistemAir.Spec.Locks
import SistemAir.Spec.Months
import SistemAir.Spec.Reports
import SistemAir.Spec.Partition
import SistemAir.Spec.Unrecorded
import SistemAir.Spec.Residents
import SistemAir.Spec.Charts
import SistemAir.Spec.ChartText
import SistemAir.Spec.Tariffs
import SistemAir.Spec.TariffOrder
import SistemAir.Spec.TariffRace
import SistemAir.Spec.Statements
import SistemAir.Spec.Workers
import SistemAir.Spec.WorkerLimits
import SistemAir.Spec.WorkerRoles
import SistemAir.Spec.Authentication
import SistemAir.Spec.Books
import SistemAir.Spec.BooksRefinement
