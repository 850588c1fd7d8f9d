import OmarchyM1Video.Py.Bytes
import OmarchyM1Video.Py.Dict
import OmarchyM1Video.Py.Exec
import OmarchyM1Video.Py.History
import OmarchyM1Video.Py.IsoFormat
import OmarchyM1Video.Py.Json
import OmarchyM1Video.Py.JsonEq
import OmarchyM1Video.Py.Text
import OmarchyM1Video.Py.JsonText
import OmarchyM1Video.Py.Search
import OmarchyM1Video.Py.Lines
import OmarchyM1Video.Py.Triple
import OmarchyM1Video.Bits.Msb
import OmarchyM1Video.Bits.Partial
import OmarchyM1Video.C.Memory
import OmarchyM1Video.C.Strings
import OmarchyM1Video.Vp9State.Event
import OmarchyM1Video.Vp9State.Layout
import OmarchyM1Video.Vp9State.Session
import OmarchyM1Video.Vp9State.Steps
import OmarchyM1Video.Vp9State.Invariant
import OmarchyM1Video.Vp9State.References
import OmarchyM1Video.Vp9State.Errors
import OmarchyM1Video.Vp9State.Atomicity
import OmarchyM1Video.Vp9State.Numbering
import OmarchyM1Video.Vp9State.Provenance
import OmarchyM1Video.ProfileSelection.Inventory
import OmarchyM1Video.ProfileSelection.Selection
import OmarchyM1Video.ProfileSelection.Soundness
import OmarchyM1Video.ProfileSelection.Monotone
import OmarchyM1Video.H264Admission.StopGuard
import OmarchyM1Video.HevcControls.Trace
import OmarchyM1Video.HevcControls.Scan
import OmarchyM1Video.HevcControls.Ledger
import OmarchyM1Video.HevcControls.Records
import OmarchyM1Video.HevcControls.Accounting
import OmarchyM1Video.HevcControls.Resolution
import OmarchyM1Video.HevcControls.Domain
import OmarchyM1Video.HevcControls.Lifecycle
import OmarchyM1Video.HevcControls.Retirement
import OmarchyM1Video.AvdMap.Model
import OmarchyM1Video.AvdMap.History
import OmarchyM1Video.AvdMap.Acceptance
import OmarchyM1Video.AvdMap.SlotNumbering
import OmarchyM1Video.AvdMap.Words
import OmarchyM1Video.TraceCheck.Reader
import OmarchyM1Video.TraceCheck.Records
import OmarchyM1Video.TraceCheck.Validate
import OmarchyM1Video.TraceCheck.MotionWord
import OmarchyM1Video.TraceCheck.Renaming
import OmarchyM1Video.TraceCheck.RoundTrip
import OmarchyM1Video.TraceCheck.Soundness
import OmarchyM1Video.CommandTrace.Wire
import OmarchyM1Video.CommandTrace.Parser
import OmarchyM1Video.CommandTrace.Compare
import OmarchyM1Video.CommandTrace.Copied
import OmarchyM1Video.CommandTrace.RoundTrip
import OmarchyM1Video.CommandTrace.Completeness
import OmarchyM1Video.Recorder.Core
import OmarchyM1Video.Recorder.Session
import OmarchyM1Video.Recorder.AvdTrace
import OmarchyM1Video.Recorder.AvdCmdtrace
import OmarchyM1Video.Recorder.Controls
import OmarchyM1Video.Recorder.Storage
import OmarchyM1Video.Recorder.TraceHooks
import OmarchyM1Video.Recorder.CmdtraceHooks
import OmarchyM1Video.Recorder.CmdRecords
import OmarchyM1Video.Recorder.TraceRecords
import OmarchyM1Video.Recorder.Snapshots
import OmarchyM1Video.Recorder.Soundness
import OmarchyM1Video.Recorder.Pinning
import OmarchyM1Video.Driver.Buffers
import OmarchyM1Video.Driver.EntryPoints
import OmarchyM1Video.Driver.Job
import OmarchyM1Video.Driver.Lifecycle
import OmarchyM1Video.Driver.Slices
import OmarchyM1Video.Driver.Tables
import OmarchyM1Video.Driver.Watchdog
import OmarchyM1Video.Rebuild.Script
import OmarchyM1Video.Rebuild.UpToDate
import OmarchyM1Video.Rebuild.Removal
import OmarchyM1Video.Rebuild.Series
import OmarchyM1Video.HevcParamSets.Model
import OmarchyM1Video.HevcParamSets.Tables
import OmarchyM1Video.HevcParamSets.Pending
import OmarchyM1Video.HevcParamSets.Activation
import OmarchyM1Video.HevcParamSets.Rbsp
import OmarchyM1Video.HevcParamSets.AnnexB
import OmarchyM1Video.HevcParamSets.Current
import OmarchyM1Video.HevcParamSets.FixtureEdits
import OmarchyM1Video.HevcParamSets.InOrder
import OmarchyM1Video.HevcParamSets.Order
import OmarchyM1Video.GstObserver.Model
import OmarchyM1Video.GstObserver.Requests
import OmarchyM1Video.GstObserver.Locality
import OmarchyM1Video.GstObserver.Reachable
import OmarchyM1Video.GstObserver.Refusals
import OmarchyM1Video.GstObserver.Lease
import OmarchyM1Video.GstObserver.QueueLog
import OmarchyM1Video.ReferenceContent.Pool
import OmarchyM1Video.ReferenceContent.AppendOnly
import OmarchyM1Video.ReferenceContent.ApprovedBuilds
import OmarchyM1Video.ReferenceContent.BuildNotes
import OmarchyM1Video.ReferenceContent.Collectors
import OmarchyM1Video.ReferenceContent.FakeQueue
import OmarchyM1Video.ReferenceContent.GstCallsite
import OmarchyM1Video.ReferenceContent.Report
import OmarchyM1Video.ReferenceContent.GstReport
import OmarchyM1Video.ReferenceContent.GstRunner
import OmarchyM1Video.ReferenceContent.GstEligibility
import OmarchyM1Video.ReferenceContent.GstMoves
import OmarchyM1Video.ReferenceContent.GstObservation
import OmarchyM1Video.ReferenceContent.SnapshotCall
import OmarchyM1Video.ReferenceContent.Retention
import OmarchyM1Video.ReferenceContent.VaCallsite
import OmarchyM1Video.ReferenceContent.Selectors
import OmarchyM1Video.ReferenceContent.SnapshotRuns
import OmarchyM1Video.ReferenceContent.VaObservation
import OmarchyM1Video.ReferenceContent.VaReport
import OmarchyM1Video.SameRun.Report
import OmarchyM1Video.SameRun.Agreement
import OmarchyM1Video.SameRun.GstQueue
import OmarchyM1Video.SameRun.Evidence
import OmarchyM1Video.SameRun.Join
import OmarchyM1Video.SameRun.PictureOrder
import OmarchyM1Video.SameRun.LogOrder
import OmarchyM1Video.SameRun.Identity
import OmarchyM1Video.Deployment.Plan
import OmarchyM1Video.Deployment.Targets
import OmarchyM1Video.Deployment.Validity
import OmarchyM1Video.Deployment.Commands
import OmarchyM1Video.Deployment.Admission
import OmarchyM1Video.CommandCapture.Campaign
import OmarchyM1Video.CommandCapture.Report
import OmarchyM1Video.CommandCapture.Completion
import OmarchyM1Video.CommandCapture.Endings
import OmarchyM1Video.CommandCapture.Agreement
import OmarchyM1Video.Vp9Scan.Webm
import OmarchyM1Video.Installer.MpvConf
import OmarchyM1Video.BootEvidence.Collect
import OmarchyM1Video.BootEvidence.NoGap
import OmarchyM1Video.Campaigns.Host
import OmarchyM1Video.Campaigns.Live
import OmarchyM1Video.Campaigns.Qualify
import OmarchyM1Video.Campaigns.Rules
import OmarchyM1Video.Campaigns.Order
import OmarchyM1Video.Campaigns.Complete
import OmarchyM1Video.Campaigns.Undo
