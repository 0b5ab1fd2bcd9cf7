import MasterServer.Basic
import MasterServer.SessionMap
import MasterServer.State
import MasterServer.InstanceManager
import MasterServer.HandlePacket
import MasterServer.ControlLoop
import MasterServer.Act
import MasterServer.Frame
import MasterServer.Evolution
import MasterServer.ReadyGate
import MasterServer.Globals
import MasterServer.Sessions
import MasterServer.ShuttingDown
import MasterServer.InstanceKeys
import MasterServer.Affirmation
import MasterServer.Timeout
import MasterServer.Drain
import MasterServer.Transport
import MasterServer.Termination
import MasterServer.Lookups
import MasterServer.Wire
import MasterServer.Decode
import MasterServer.PrivateZones
import MasterServer.Codec
import MasterServer.Truncation
import MasterServer.Ledger
import MasterServer.TwoPhase
import MasterServer.Routing
import MasterServer.Reply
import MasterServer.PersistentIDs
import MasterServer.ChatServer
import MasterServer.Registry
import MasterServer.ZoneAccess
