import ChatFlow.DatabaseUrl
import ChatFlow.Proofs.Engine.Answered
import ChatFlow.Proofs.Engine.Atomicity
import ChatFlow.Proofs.Engine.Bounds
import ChatFlow.Proofs.Engine.Completion
import ChatFlow.Proofs.Engine.Continuation
import ChatFlow.Proofs.Engine.Crashes
import ChatFlow.Proofs.Engine.Exclusive
import ChatFlow.Proofs.Engine.Isolation
import ChatFlow.Proofs.Engine.Notes
import ChatFlow.Proofs.Engine.Parking
import ChatFlow.Proofs.Engine.Reordered
import ChatFlow.Proofs.Engine.Replies
import ChatFlow.Proofs.Engine.Restart
import ChatFlow.Proofs.Engine.Sending
import ChatFlow.Proofs.Engine.Serial
import ChatFlow.Proofs.Engine.Shapes
import ChatFlow.Proofs.Engine.Trail
import ChatFlow.Proofs.Engine.Transparency
import ChatFlow.Proofs.Flow.Choice
import ChatFlow.Proofs.Flow.Selection
import ChatFlow.Proofs.Gateway
import ChatFlow.Proofs.Node.Handles
import ChatFlow.Proofs.Node.LastCall
import ChatFlow.Proofs.Node.Requests
import ChatFlow.Proofs.Node.Rounds
import ChatFlow.Proofs.Value.Places
import ChatFlow.Proofs.Value.Writes
import ChatFlow.Proofs.Web.Deliveries
import ChatFlow.Token
import ChatFlow.Web.Routes
import ChatFlow.Proofs.Value.Pairs
import ChatFlow.Proofs.Node.Items
import ChatFlow.Proofs.Config.Ignored
import ChatFlow.Proofs.Value.Conditions
import ChatFlow.Proofs.Value.PlaceholderPattern
import ChatFlow.Proofs.Config.Settled
import ChatFlow.Proofs.Message.Limits
import ChatFlow.Proofs.Engine.Recorded
import ChatFlow.Proofs.Node.Logged
import ChatFlow.Proofs.Node.Stamps
import ChatFlow.Proofs.Store.Timeline
import ChatFlow.Proofs.Web.Verification
import ChatFlow.Proofs.Node.Joined
import ChatFlow.Proofs.Phone
import ChatFlow.Proofs.Engine.Zones
