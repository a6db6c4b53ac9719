import LibIso15118.Fsm.ContactorGate
import LibIso15118.Fsm.StartGate
import LibIso15118.Fsm.IsolationGate
import LibIso15118.Fsm.ForeignSession
import LibIso15118.Fsm.Failures
import LibIso15118.Fsm.SessionIdentity
import LibIso15118.Fsm.EnergyService
import LibIso15118.Fsm.Phases
import LibIso15118.Fsm.LimitFreshness
import LibIso15118.Fsm.LoopSignals
import LibIso15118.Der.Answers
import LibIso15118.Station.AuthorizationGate
import LibIso15118.Station.ResumeFidelity
import LibIso15118.Station.ResumePaused
import LibIso15118.Io.PacketStream
import LibIso15118.Session.DelayedClose
import LibIso15118.Session.SpuriousStop
import LibIso15118.Session.AfterStop
import LibIso15118.Session.ResponseBuffer
import LibIso15118.Session.SequenceTimer
import LibIso15118.Session.TimerOwnership
import LibIso15118.Controller.Teardown
import LibIso15118.Codec.AcChargeLoopRequest
import LibIso15118.Codec.AcChargeLoopResponse
import LibIso15118.Codec.AcChargeParameterDiscovery
import LibIso15118.Codec.Agreement
import LibIso15118.Codec.DcChargeLoop
import LibIso15118.Codec.DcChargeParameterDiscovery
import LibIso15118.Codec.Services
import LibIso15118.Codec.Session
import LibIso15118.Controller.Assertions
import LibIso15118.Controller.Discovery
import LibIso15118.Controller.Registrations
import LibIso15118.Controller.Updates
import LibIso15118.Fsm.DepartureTime
import LibIso15118.Fsm.LeavingAuthorization
import LibIso15118.Fsm.LoopStatus
import LibIso15118.Fsm.Negotiation
import LibIso15118.Fsm.RequestSlot
import LibIso15118.Io.PollManager
import LibIso15118.Io.SdpServer
import LibIso15118.Io.SupportedVersions
import LibIso15118.Service.Advertised
import LibIso15118.Service.Selection
import LibIso15118.Session.RequestSlot
import LibIso15118.Session.Delivery
import LibIso15118.Session.Silence
import LibIso15118.Session.TimerSet
import LibIso15118.Fsm.VasIdentity
import LibIso15118.Fsm.Advertising
import LibIso15118.Fsm.ChargingNeeds
import LibIso15118.Fsm.Measurements
import LibIso15118.Fsm.SignalCourse
import LibIso15118.Io.Reads
