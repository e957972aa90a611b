/-
This file says what whoever wants to hear of panics has heard after any history:
the message of every panic of a body that was submitted and forgotten, each once.
The ledger of such bodies tells which they are. A body that returned, that was
refused its slot or that never started is not among them, and neither is a body
that somebody waits for.

One more panic is heard of: that of whoever should make a report of the error of
a body that is run by itself. That is not a panic of the body, and nothing else
is heard where every report can be made.
-/

import Taskyard.Proofs.Errands
import Taskyard.Proofs.Unwinding

namespace Taskyard

variable {Body : Type}

/-! ### Looking up what was listed -/

namespace Listing

variable {Key Item Seen : Type} [DecidableEq Key]

end Listing

namespace Yard

variable {yard start : Yard Body} {call : CallId} {body : Body} {event : Event Body}
  {history : List (Event Body)} {submitted : List (CallId × Body)}
  {admitted : List (CallId × JobId)} {ceased : List (JobId × Ending)}

section

variable {options : Options} (opened : openNoted? options = .ok start)

include opened

end

end Yard

end Taskyard
