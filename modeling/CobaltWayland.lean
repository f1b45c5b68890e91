import CobaltWayland.SeekOrder
import CobaltWayland.PlayPause
import CobaltWayland.Presenting
import CobaltWayland.EndOfStream
import CobaltWayland.SampleOwnership
import CobaltWayland.Refinement
import CobaltWayland.LiveSystem
import CobaltWayland.DataRequests
import CobaltWayland.SampleLoss
import CobaltWayland.PipelineStop
import CobaltWayland.Destruction
import CobaltWayland.FirstReport
import CobaltWayland.SeekOnce
import CobaltWayland.EventWait
import CobaltWayland.SampleContent
import CobaltWayland.ThreadPriority
import CobaltWayland.LoopShutdown
import CobaltWayland.PrerollMoment
import CobaltWayland.RateDrift
import CobaltWayland.ReportedPosition
import CobaltWayland.PadBookkeeping
import CobaltWayland.SpeedCheck
import CobaltWayland.Lib.Deferred
import CobaltWayland.CallOrder
import CobaltWayland.TicketOrder
import CobaltWayland.WindowUpdates
import CobaltWayland.ComingToRest
import CobaltWayland.Creation
import CobaltWayland.SampleDelivery
import CobaltWayland.FlushReports
import CobaltWayland.EventDelivery
import CobaltWayland.Lib.Memo
import CobaltWayland.PlayFlags
import CobaltWayland.StateObservers
import CobaltWayland.InfoReads
import CobaltWayland.FlushOrder
import CobaltWayland.WorkerHandshake
import CobaltWayland.StreamEnds
