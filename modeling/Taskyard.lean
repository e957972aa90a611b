import Taskyard.Application
import Taskyard.LogFile
import Taskyard.Proofs.AtMostOnce
import Taskyard.Proofs.Cancellation
import Taskyard.Proofs.Completeness
import Taskyard.Proofs.Conservation
import Taskyard.Proofs.EndReasons
import Taskyard.Proofs.FirstCome
import Taskyard.Proofs.Stillness
import Taskyard.Proofs.Truthfulness
import Taskyard.Scenario
import Taskyard.Settings.Load
import Taskyard.Yard.History
import Taskyard.Proofs.Staffing
import Taskyard.Proofs.LateStarts
import Taskyard.Proofs.Reports
import Taskyard.Proofs.Descent
import Taskyard.Proofs.Finality
import Taskyard.Proofs.Queues
import Taskyard.Proofs.Deliveries
import Taskyard.Proofs.Veils
import Taskyard.Proofs.Likeness
import Taskyard.Proofs.Isolation
import Taskyard.Proofs.Twins
import Taskyard.Proofs.Timeouts
import Taskyard.Proofs.Drains
import Taskyard.Proofs.OneShot
import Taskyard.Proofs.Admission
import Taskyard.Proofs.PushOrder
import Taskyard.Proofs.Readings
import Taskyard.Proofs.Decoding
import Taskyard.Proofs.Layers
import Taskyard.Proofs.Brevity
import Taskyard.Proofs.Awaiting
import Taskyard.Proofs.Rounds
import Taskyard.Proofs.Workday
import Taskyard.Proofs.Errands
import Taskyard.Proofs.Panics
import Taskyard.Proofs.Overrides
