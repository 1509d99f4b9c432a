import TunVideo.BeaconRoundTrip
import TunVideo.TableExpiry
import TunVideo.PortSeparation
import TunVideo.TrailerRoundTrip
import TunVideo.RelayOnce
import TunVideo.RelayPayload
import TunVideo.HopBound
import TunVideo.CachedRoute
import TunVideo.LiveNeighbor
import TunVideo.NextHop
import TunVideo.RouteOptimal
import TunVideo.OriginFreshness
import TunVideo.UnknownPosition
import TunVideo.RoutingState
import TunVideo.TaskClock
import TunVideo.TableInvariant
import TunVideo.BeaconNetwork
import TunVideo.SentinelInvariant
import TunVideo.KeepAlive
import TunVideo.MutexProgram
import TunVideo.LockSafety
import TunVideo.FloatFormat
import TunVideo.Binary32Widen
import TunVideo.Predict
import TunVideo.ComparedPosition
import TunVideo.ReportedHistory
import TunVideo.BeaconOrder
import TunVideo.PhysicalAddress
import TunVideo.OwnPosition
import TunVideo.ExactNumber
import TunVideo.DeadReckoning
import TunVideo.BeaconDetermined
import TunVideo.ReadLoop
import TunVideo.Tunnel
import TunVideo.TapUdp
import TunVideo.TunUdp
import TunVideo.IRSchedule
import TunVideo.IRtest
import TunVideo.FrameAgreement
import TunVideo.ProgramNotes
import TunVideo.DatagramAccess
import TunVideo.ShortBeacon
import TunVideo.TunLength
import TunVideo.ForwardingFrame
import TunVideo.AgeOverflow
import TunVideo.ConeAngle
import TunVideo.SpeedDecomposition
import TunVideo.PredictLoop
import TunVideo.SlopeRegression
import TunVideo.Kinematics
import TunVideo.PredictStart
import TunVideo.ElapsedSeconds
import TunVideo.PredictDomain
import TunVideo.Rounding
import TunVideo.GpsThread
import TunVideo.AtomicOperations
import TunVideo.Delivery
import TunVideo.SelectLoop
import TunVideo.Cascade
import TunVideo.Flood
import TunVideo.AnnouncedPosition
import TunVideo.UnicastTarget
import TunVideo.RecentTables
import TunVideo.GreatCircle
import TunVideo.Millier
import TunVideo.GaussNoise
import TunVideo.PredictedRay
import TunVideo.CheckedCalls
import TunVideo.Startup
import TunVideo.DataPort
import TunVideo.Overlay
import TunVideo.StaleBytes
import TunVideo.MisreadBeacon
import TunVideo.LinkedNode
import TunVideo.LinkedRefinement
import TunVideo.RouteLeak
