import Spd3000.ExactlyOnce
import Spd3000.Transparency
import Spd3000.Attribution
import Spd3000.Spacing
import Spd3000.Protocol
import Spd3000.Handshake
import Spd3000.Driver
import Spd3000.Batch
import Spd3000.Scopes
import Spd3000.Failures
import Spd3000.Access
import Spd3000.Performed
import Spd3000.Retries
import Spd3000.Shutdown
import Spd3000.Framing
import Spd3000.Sending
import Spd3000.Responses
import Spd3000.Correlation
import Spd3000.Threads
import Spd3000.Isolation
import Spd3000.Lib.Decimals
import Spd3000.Numbers
import Spd3000.Addresses
import Spd3000.Models
import Spd3000.Arguments
import Spd3000.Methods
import Spd3000.Setpoints
import Spd3000.Forms
import Spd3000.Validation
import Spd3000.Reassembly
import Spd3000.Streams
import Spd3000.Admission
import Spd3000.Limits
import Spd3000.Reconstruction
import Spd3000.Lib.Masks
import Spd3000.Netmasks
import Spd3000.Endpoints
import Spd3000.Configuration
import Spd3000.Lib.HashTable
import Spd3000.Unwrapping
import Spd3000.SystemErrors
import Spd3000.Simulation
import Spd3000.Remote
import Spd3000.Heartbeats
import Spd3000.Registry
import Spd3000.Serving
import Spd3000.Lib.Scripts
import Spd3000.Lifecycle
import Spd3000.Releases
import Spd3000.Transports
import Spd3000.EndToEnd
import Spd3000.Doubles
import Spd3000.Readbacks
import Spd3000.Supplies
import Spd3000.Stores
