import Redial.Call.Client
import Redial.Failure.Text
import Redial.Log.Text
import Redial.Metrics.Exposition
import Redial.Options.Text
import Redial.Wire.Channel
import Redial.Proofs.Call.Accounts
import Redial.Proofs.Call.Cancellation
import Redial.Proofs.Call.Counter
import Redial.Proofs.Call.Failures
import Redial.Proofs.Call.Schedule
import Redial.Proofs.Call.Settling
import Redial.Proofs.Call.Window
import Redial.Proofs.Call.Budget
import Redial.Proofs.Call.Sending
import Redial.Proofs.Call.Secrecy
import Redial.Proofs.Metrics.Balance
import Redial.Proofs.Metrics.Conservation
import Redial.Proofs.Options.RoundTrip
import Redial.Proofs.Metrics.Naming
import Redial.Proofs.Options.Durations
import Redial.Proofs.Options.Layers
import Redial.Proofs.Options.Rebuilding
import Redial.Proofs.Call.Unretried
import Redial.Proofs.Metadata.Building
import Redial.Proofs.Failure.Classification
import Redial.Proofs.Status.Meaning
import Redial.Proofs.Metrics.OwnWrites
import Redial.Proofs.Wire.Target
