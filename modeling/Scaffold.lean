import Scaffold.Main
import Scaffold.Proofs.Artifact.Agreement
import Scaffold.Proofs.Artifact.CleanNames
import Scaffold.Proofs.Artifact.ColumnDefault
import Scaffold.Proofs.Artifact.Columns
import Scaffold.Proofs.Artifact.FormDefault
import Scaffold.Proofs.Artifact.Imports
import Scaffold.Proofs.Artifact.Keys
import Scaffold.Proofs.Artifact.Operations
import Scaffold.Proofs.Artifact.Pagination
import Scaffold.Proofs.Artifact.Rewording
import Scaffold.Proofs.Artifact.ScriptStatements
import Scaffold.Proofs.Artifact.Sections
import Scaffold.Proofs.CommandLine.Files
import Scaffold.Proofs.Interpreter.ShapeCheck
import Scaffold.Proofs.Naming.Capitalised
import Scaffold.Proofs.Naming.ClassName
import Scaffold.Proofs.Naming.LegalAttribute
import Scaffold.Proofs.Schema.Canonical
import Scaffold.Proofs.Schema.Clash
import Scaffold.Proofs.Schema.Gate
import Scaffold.Proofs.Schema.Merge
import Scaffold.Proofs.Schema.Update
import Scaffold.Proofs.Session.Echo
import Scaffold.Proofs.Session.Exchange
import Scaffold.Proofs.Session.FieldIds
import Scaffold.Proofs.Session.History
import Scaffold.Proofs.Session.Offline
import Scaffold.Proofs.Session.Reply
import Scaffold.Proofs.Web.Conflict
import Scaffold.Proofs.Web.FieldChange
import Scaffold.Web.Target
