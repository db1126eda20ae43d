import Ldc1614.Guarantees.RegisterImage
import Ldc1614.Guarantees.TransferPlan
import Ldc1614.Guarantees.Classification
import Ldc1614.Guarantees.FrameTime
import Ldc1614.Guarantees.Consistency
import Ldc1614.Guarantees.Coherence
import Ldc1614.Guarantees.Progress
import Ldc1614.Guarantees.Healthy
import Ldc1614.Guarantees.Recovery
import Ldc1614.Guarantees.NoWrap
import Ldc1614.Guarantees.Envelope
import Ldc1614.Guarantees.Independence
import Ldc1614.Guarantees.Atomicity
import Ldc1614.Guarantees.PollStatus
import Ldc1614.Guarantees.Schedule
import Ldc1614.Guarantees.Revision
import Ldc1614.Guarantees.Evidence
import Ldc1614.Driver.Records
import Ldc1614.Guarantees.Delivery
import Ldc1614.Interaction.Mailbox
import Ldc1614.Guarantees.IdentityFence
import Ldc1614.Guarantees.RegisterSafety
import Ldc1614.Guarantees.Deadline
import Ldc1614.Interaction.History
import Ldc1614.Driver.Evaluate
import Ldc1614.Interaction.Clock
import Ldc1614.Interaction.Environment
import Ldc1614.Transport.I2cMasterTransport
import Ldc1614.Transport.Ownership
import Ldc1614.Transport.Calls
import Ldc1614.Transport.Wire
import Ldc1614.Guarantees.Deployment
import Ldc1614.Guarantees.Service
import Ldc1614.Cli.Input
import Ldc1614.Cli.Hardware
