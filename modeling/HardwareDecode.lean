import HardwareDecode.Backend.Forwarding
import HardwareDecode.Backend.SurfaceTable
import HardwareDecode.Backend.TextureArray
import HardwareDecode.Crew.Progress
import HardwareDecode.Driver.Recording
import HardwareDecode.Driver.Scripted
import HardwareDecode.Effect.Progress
import HardwareDecode.Lock.Table
import HardwareDecode.Proofs.BatchCheck
import HardwareDecode.Proofs.BoundedRetry
import HardwareDecode.Proofs.BufferMapping
import HardwareDecode.Proofs.BusyDevice
import HardwareDecode.Proofs.BusyTransparency
import HardwareDecode.Proofs.CommitHistory
import HardwareDecode.Proofs.CommitOutcome
import HardwareDecode.Proofs.Dialogue
import HardwareDecode.Proofs.ErrorLevels
import HardwareDecode.Proofs.FailedCommits
import HardwareDecode.Proofs.FailureReports
import HardwareDecode.Proofs.FirstFailure
import HardwareDecode.Proofs.FrameBracket
import HardwareDecode.Proofs.FrameIndependence
import HardwareDecode.Proofs.FrameTrials
import HardwareDecode.Proofs.Framing
import HardwareDecode.Proofs.GuardedBegin
import HardwareDecode.Proofs.InterfaceAgreement
import HardwareDecode.Proofs.Keeping
import HardwareDecode.Proofs.Likeness
import HardwareDecode.Proofs.LockDiscipline
import HardwareDecode.Proofs.LockTable
import HardwareDecode.Proofs.MessageIdentity
import HardwareDecode.Proofs.MutualExclusion
import HardwareDecode.Proofs.PayloadIntegrity
import HardwareDecode.Proofs.Protocol
import HardwareDecode.Proofs.RecordedPayloads
import HardwareDecode.Proofs.RecordingBackend
import HardwareDecode.Proofs.ScheduleIndependence
import HardwareDecode.Proofs.SessionLedger
import HardwareDecode.Proofs.Shelf
import HardwareDecode.Proofs.Speaking
import HardwareDecode.Proofs.Submission
import HardwareDecode.Proofs.SurfaceIndex
import HardwareDecode.Retry.Callbacks
import HardwareDecode.Session.Step
