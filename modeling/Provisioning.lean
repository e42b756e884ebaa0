import Provisioning.Blueprint.Basic
import Provisioning.Blueprint.ContainerRegistry
import Provisioning.Blueprint.Database
import Provisioning.Blueprint.Disk
import Provisioning.Blueprint.Disk.Edit
import Provisioning.Blueprint.LocalRouter
import Provisioning.Blueprint.MobileGateway
import Provisioning.Blueprint.OperatingSystem
import Provisioning.Blueprint.Server
import Provisioning.Blueprint.Switching
import Provisioning.Blueprint.VpcRouter
import Provisioning.Cloud.Answer
import Provisioning.Cloud.Appliance
import Provisioning.Cloud.Compute
import Provisioning.Cloud.Global
import Provisioning.Cloud.Snapshot
import Provisioning.Cloud.State
import Provisioning.Cloud.Storage
import Provisioning.Context
import Provisioning.Error
import Provisioning.Identifier
import Provisioning.Ipv4
import Provisioning.Json.Basic
import Provisioning.Json.Default
import Provisioning.Json.Form
import Provisioning.Json.Number
import Provisioning.Json.Printer
import Provisioning.Json.Reader
import Provisioning.Lineage
import Provisioning.Model.ContainerRegistry
import Provisioning.Model.Credential
import Provisioning.Model.Database
import Provisioning.Model.Disk
import Provisioning.Model.LocalRouter
import Provisioning.Model.MobileGateway
import Provisioning.Model.Server
import Provisioning.Model.Status
import Provisioning.Model.VpcRouter
import Provisioning.Power
import Provisioning.Program
import Provisioning.Recorder
import Provisioning.Remote.Command
import Provisioning.Remote.Endpoint
import Provisioning.Remote.Form
import Provisioning.Remote.Request
import Provisioning.Script
import Provisioning.Session
import Provisioning.SortedMap
import Provisioning.Text.Blank
import Provisioning.Text.Dotted
import Provisioning.Text.Fragment
import Provisioning.Text.GeneratedName
import Provisioning.Timing
import Provisioning.Timing.Config
import Provisioning.Wait
import Provisioning.Proofs.CloudStep
import Provisioning.Proofs.Footprint
import Provisioning.Proofs.Run
import Provisioning.Proofs.SettingsHash
import Provisioning.Proofs.LostUpdate
import Provisioning.Proofs.LineageRule
import Provisioning.Proofs.LineageWalk
import Provisioning.Proofs.Calm
import Provisioning.Proofs.Waits
import Provisioning.Proofs.ApplianceBuild
import Provisioning.Proofs.GlobalBuild
import Provisioning.Proofs.Extension
import Provisioning.Proofs.DiskCheck
import Provisioning.Proofs.DiskBuild
import Provisioning.Proofs.ServerBuild
import Provisioning.Proofs.Blueprints
import Provisioning.Proofs.Blame
import Provisioning.Proofs.ValidationFirst
import Provisioning.Proofs.Journal
import Provisioning.Proofs.Steps
import Provisioning.Proofs.Orderly
import Provisioning.Proofs.OrderlyPlans
import Provisioning.Proofs.FailStop
import Provisioning.Proofs.Readiness
import Provisioning.Proofs.ReadyFirst
import Provisioning.Proofs.Undisturbed
import Provisioning.Proofs.Sparing
import Provisioning.Proofs.Reissue
import Provisioning.Proofs.Overtaken
import Provisioning.Proofs.PowerBudget
import Provisioning.Proofs.Disposal
import Provisioning.Proofs.Hosting
import Provisioning.Proofs.ServerView
import Provisioning.Proofs.ServerHosting
import Provisioning.Proofs.Realization
import Provisioning.Proofs.ServerUpdate
import Provisioning.Proofs.PlanChange
import Provisioning.Proofs.RecordView
import Provisioning.Proofs.Arising
import Provisioning.Proofs.Errands
import Provisioning.Proofs.Wiring
import Provisioning.Proofs.Plugs
import Provisioning.Proofs.Cards
import Provisioning.Proofs.Deployment
import Provisioning.Proofs.Atomicity
import Provisioning.Proofs.Ledger
import Provisioning.Proofs.Reconciliation
import Provisioning.Proofs.Integrity
import Provisioning.Proofs.ServerConvergence
import Provisioning.Proofs.PollSchedule
import Provisioning.Proofs.Derivation
import Provisioning.Proofs.Links
import Provisioning.Proofs.Relinking
import Provisioning.Proofs.ReadSchedule
import Provisioning.Proofs.WaitDiscipline
import Provisioning.Proofs.Deletion
import Provisioning.Proofs.RequestSchedule
import Provisioning.Proofs.LineageReads
import Provisioning.Proofs.Stock
import Provisioning.Proofs.Makings
import Provisioning.Proofs.EditRequest
import Provisioning.Proofs.EditRules
import Provisioning.Proofs.CardUpdate
import Provisioning.Proofs.DatabaseUpdate
import Provisioning.Proofs.ApplianceRealization
import Provisioning.Proofs.RouterRules
import Provisioning.Proofs.Redundancy
import Provisioning.Proofs.Repetition
import Provisioning.Proofs.ServerRules
import Provisioning.Proofs.Schema
import Provisioning.Proofs.LawfulForm
import Provisioning.Proofs.RecordForm
import Provisioning.Proofs.ModelForms
