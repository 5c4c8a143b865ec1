import Footscreen.Lib.Run
import Footscreen.Lib.Framing
import Footscreen.Lib.Memory
import Footscreen.Lib.Replica
import Footscreen.Lib.Arrival
import Footscreen.Lib.Pointwise
import Footscreen.Lib.Counter
import Footscreen.Lib.Sweep
import Footscreen.Lib.Homography
import Footscreen.Lib.Mutex
import Footscreen.Lib.Precedence
import Footscreen.Lib.Selection
import Footscreen.Network.MessageData
import Footscreen.Network.Session
import Footscreen.Network.Correctness.Framing
import Footscreen.Network.Correctness.WriteQueue
import Footscreen.Network.NetworkClient
import Footscreen.Network.Correctness.Lifecycle
import Footscreen.Network.Correctness.ClientLifecycle
import Footscreen.Message.Message
import Footscreen.Message.Synchronize
import Footscreen.Message.Correctness.UpdateData
import Footscreen.Message.Correctness.RoundTrip
import Footscreen.Game.FloatArith
import Footscreen.Game.GameUnit
import Footscreen.Game.MessageHandler
import Footscreen.Game.GameNetworkInterface
import Footscreen.Game.GameMessage
import Footscreen.Game.Game
import Footscreen.Game.GameServer
import Footscreen.Game.GameLoop
import Footscreen.Game.GameNetworkServer
import Footscreen.Game.LiveObjects
import Footscreen.Game.GameClient
import Footscreen.Game.RealArith
import Footscreen.Game.Correctness.Registry
import Footscreen.Game.Correctness.Dispatch
import Footscreen.Game.Correctness.Snapshot
import Footscreen.Game.Correctness.Replica
import Footscreen.Game.Correctness.Rounds
import Footscreen.Game.Correctness.ServerDispatch
import Footscreen.Game.Correctness.ServerRuns
import Footscreen.Game.Correctness.Authority
import Footscreen.Game.Correctness.Lookup
import Footscreen.Game.Correctness.Requests
import Footscreen.Game.Correctness.Channel
import Footscreen.Game.Correctness.Levels
import Footscreen.Game.Correctness.Wraparound
import Footscreen.Game.Correctness.Interleaving
import Footscreen.Game.Correctness.Join
import Footscreen.Game.Correctness.Exclusive
import Footscreen.Game.Correctness.Addressees
import Footscreen.Game.Correctness.Closing
import Footscreen.Game.Correctness.Objects
import Footscreen.Game.Correctness.Lifetime
import Footscreen.Game.Correctness.Generation
import Footscreen.Game.Correctness.Frames
import Footscreen.Game.Correctness.Motion
import Footscreen.Game.Correctness.Play
import Footscreen.Game.Correctness.Braking
import Footscreen.Game.Correctness.Landing
import Footscreen.Game.Correctness.Fate
import Footscreen.Game.Correctness.Speed
import Footscreen.Game.Correctness.Hits
import Footscreen.Game.Correctness.Headings
import Footscreen.Game.Correctness.Truncation
import Footscreen.Game.Correctness.Catching
import Footscreen.Game.Correctness.Rescue
import Footscreen.Game.Correctness.Separation
import Footscreen.Game.Correctness.Restart
import Footscreen.Game.Correctness.Players
import Footscreen.Game.ServerThreads
import Footscreen.Game.Correctness.Pointers
import Footscreen.Application.Calibration
import Footscreen.Application.Correctness.Wizard
import Footscreen.Application.Correctness.Maps
import Footscreen.Application.Application
import Footscreen.Application.Correctness.Steering
import Footscreen.Application.Correctness.Touch
import Footscreen.Application.Correctness.Commands
import Footscreen.Application.Correctness.Nearest
import Footscreen.Application.Correctness.Detection
import Footscreen.Application.Correctness.Presence
import Footscreen.Lib.Median
import Footscreen.Application.Program
import Footscreen.Application.Correctness.Heights
import Footscreen.Application.Correctness.Play
import Footscreen.Lib.Channel
import Footscreen.Lib.Refinement
import Footscreen.Network.Connection
import Footscreen.Network.Correctness.Delivery
import Footscreen.Network.Correctness.Draining
import Footscreen.Game.Payload
import Footscreen.Game.ByteLink
import Footscreen.Game.Correctness.ByteLink
import Footscreen.Game.Correctness.Controls
import Footscreen.Game.Correctness.Obedience
import Footscreen.Game.Correctness.Trajectory
import Footscreen.Game.Correctness.Pace
import Footscreen.Game.Correctness.Scoring
import Footscreen.Game.Uplink
import Footscreen.Game.Correctness.Uplink
import Footscreen.Game.Correctness.Feedback
import Footscreen.Application.Installation
import Footscreen.Application.Correctness.Installation
import Footscreen.Game.Correctness.Spectators
import Footscreen.Game.NetworkServer
import Footscreen.Game.Correctness.Accepting
import Footscreen.Lib.Resumption
import Footscreen.Game.Clients
import Footscreen.Game.Correctness.Agreement
