import Swbt.Runtime.Worker
import Swbt.Runtime.SendEffect
import Swbt.Runtime.CommandEffect
import Swbt.Runtime.DueEffect
import Swbt.Runtime.ReadinessEffect
import Swbt.Runtime.Coherence
import Swbt.Runtime.DriveEffect
import Swbt.Runtime.EventEffect
import Swbt.Runtime.StepEffect
import Swbt.Runtime.Path
import Swbt.Runtime.Phases
import Swbt.Runtime.Run
import Swbt.Runtime.Rejection
import Swbt.Runtime.Wire
import Swbt.Runtime.Deed
import Swbt.Runtime.DeedEffect
import Swbt.Runtime.Ends
import Swbt.Runtime.PreReady
import Swbt.Runtime.Delivery
import Swbt.Runtime.Shutdown
import Swbt.Runtime.Status
import Swbt.Runtime.Projection
import Swbt.Runtime.Agreement
import Swbt.Runtime.Diagnostics
import Swbt.Runtime.Generations
import Swbt.Runtime.Published
import Swbt.Runtime.WireEffect
import Swbt.Runtime.Timer
import Swbt.Runtime.Replay
import Swbt.Runtime.Terminal
import Swbt.Runtime.Attempts
import Swbt.Runtime.Panics
import Swbt.Protocol.Decoding
import Swbt.Protocol.Replies
import Swbt.Core.Presses
import Swbt.Profile.Grammar
import Swbt.Profile.Bonds
import Swbt.Profile.Notation
import Swbt.Profile.Publication
import Swbt.Controller.ErrorMap
import Swbt.Controller.Create
import Swbt.Controller.Creation
import Swbt.Controller.Housing
import Swbt.Runtime.Completion
import Swbt.Runtime.Events
import Swbt.Runtime.Slots
import Swbt.Runtime.Latch
import Swbt.Runtime.Bootstrap
import Swbt.Runtime.Waiting
import Swbt.Runtime.Sleeping
import Swbt.Runtime.Arrivals
import Swbt.Runtime.Freshness
import Swbt.Runtime.Timeliness
import Swbt.Runtime.Following
import Swbt.Runtime.Console
import Swbt.Runtime.Prompt
