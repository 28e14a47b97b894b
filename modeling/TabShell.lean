import TabShell.Config.Printer
import TabShell.Main
import TabShell.Projection
import TabShell.Proofs.Command.Period
import TabShell.Proofs.Config.Directories
import TabShell.Proofs.Config.Document
import TabShell.Proofs.Observer.Row
import TabShell.Proofs.Script.Commands
import TabShell.Proofs.Script.Unobserved
import TabShell.Proofs.Script.Untext
import TabShell.Proofs.Session.Entries
import TabShell.Proofs.Session.History
import TabShell.Proofs.Session.Invariant
import TabShell.Proofs.Session.Link
import TabShell.Proofs.State.Dump
import TabShell.Proofs.State.Outcome
import TabShell.Proofs.Store.PageViews
import TabShell.Proofs.Store.Passive
import TabShell.Proofs.Store.Rounds
import TabShell.Proofs.Store.Written
import TabShell.Proofs.Synchronizer.Phases
import TabShell.Proofs.Telemetry.Runs
