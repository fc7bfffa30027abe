import BiothingsPulse.Foundation.Runs
import BiothingsPulse.Store.History
import BiothingsPulse.Store.Concurrency
import BiothingsPulse.Api.Due
import BiothingsPulse.Service.Timeout
import BiothingsPulse.Api.ReadOnly
import BiothingsPulse.Plugins.Sync
import BiothingsPulse.Checker.Isolation
import BiothingsPulse.Store.Backends
import BiothingsPulse.Api.AdminGuard
import BiothingsPulse.Service.Schedules
import BiothingsPulse.Checker.Classification
import BiothingsPulse.Api.Timetable
import BiothingsPulse.Service.Rebuild
import BiothingsPulse.Plugins.Declarations
import BiothingsPulse.Plugins.SourceLinks
import BiothingsPulse.Checker.Restoring
import BiothingsPulse.Checker.Selection
import BiothingsPulse.Checker.ImportRoots
import BiothingsPulse.Checker.Bases
import BiothingsPulse.Dashboard.Containment
import BiothingsPulse.Dashboard.Announcements
import BiothingsPulse.Api.Turns
import BiothingsPulse.Bootstrap
import BiothingsPulse.Api.Interleaving
import BiothingsPulse.Installer
import BiothingsPulse.Restarts
