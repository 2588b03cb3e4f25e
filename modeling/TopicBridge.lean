import TopicBridge.Catalog.Standard
import TopicBridge.Middleware.Bus
import TopicBridge.Middleware.Recorder
import TopicBridge.Session.Run
import TopicBridge.Number.Power
import TopicBridge.Proofs.World.Order
import TopicBridge.Proofs.World.Session
import TopicBridge.Proofs.Catalog.Obtainable
import TopicBridge.Proofs.World.Account
import TopicBridge.Proofs.Stage.Failure
import TopicBridge.Proofs.Stage.Session
import TopicBridge.Proofs.Traffic.EndToEnd
import TopicBridge.Proofs.Traffic.Session
import TopicBridge.Proofs.Bus.Table
import TopicBridge.Proofs.Bus.Streams
import TopicBridge.Proofs.Binding.Held
import TopicBridge.Proofs.Catalog.LeastSize
import TopicBridge.Proofs.Catalog.Resend
import TopicBridge.Proofs.Catalog.Names
import TopicBridge.Proofs.Catalog.Agreement
import TopicBridge.Proofs.World.Budget
import TopicBridge.Proofs.Lifetime.Removal
import TopicBridge.Proofs.Lifetime.Reporting
import TopicBridge.Proofs.Lifetime.Reissue
import TopicBridge.Proofs.Lifetime.Teardown
import TopicBridge.Proofs.Binding.Outbound
import TopicBridge.Proofs.Lifetime.Shutdown
import TopicBridge.Proofs.Wire.Truncation
import TopicBridge.Proofs.Catalog.Defaults
import TopicBridge.Proofs.Wire.Fault
import TopicBridge.Proofs.Wire.Blame
import TopicBridge.Proofs.Catalog.Refusal
import TopicBridge.Proofs.Catalog.Outcome
import TopicBridge.Proofs.Bus.Replay
import TopicBridge.Proofs.Bus.Buffer
import TopicBridge.Proofs.Message.Edits
import TopicBridge.Proofs.Handle.Allocation
import TopicBridge.Proofs.Script.Integers
