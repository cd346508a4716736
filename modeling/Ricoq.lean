import Ricoq.Ipc.Correctness.Transfer
import Ricoq.Ipc.Correctness.Pending
import Ricoq.Ipc.Correctness.Routing
import Ricoq.Ipc.Correctness.Delivery
import Ricoq.Ipc.Correctness.Polling
import Ricoq.Ipc.Correctness.Defer
import Ricoq.Ipc.Correctness.Pools
import Ricoq.Ipc.Correctness.Tracker
import Ricoq.Ipc.Correctness.Badge
import Ricoq.Ipc.Correctness.Accounting
import Ricoq.Fault.Correctness.Exact
import Ricoq.Fault.Correctness.Resume
import Ricoq.Fault.Correctness.Answers
import Ricoq.Boot.Correctness.Atomic
import Ricoq.Boot.Correctness.Acceptance
import Ricoq.Boot.Correctness.Grants
import Ricoq.Boot.Correctness.Ownership
import Ricoq.Boot.Correctness.Isolation
import Ricoq.Boot.Correctness.Addressing
import Ricoq.Boot.Correctness.Rejection
import Ricoq.Boot.Correctness.FreeSlots
import Ricoq.Ipc.Correctness.Signals
import Ricoq.Ipc.Correctness.Handover
