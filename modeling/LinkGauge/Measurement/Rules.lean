import LinkGauge.Problem
import LinkGauge.Text.Blank

/-!
# Rules for submissions

What every submission must satisfy, whoever made it.
-/

namespace LinkGauge

/-- A submission names the process that made it. -/
def requireDaemon (daemon : String) : Except Problem Unit :=
  if isBlank daemon then .error (.badRequest "daemon_id must not be empty") else .ok ()

/-- A bandwidth is finite and not negative. -/
def requireBandwidth (field : String) (x : Float) : Except Problem Unit :=
  if !x.isFinite || x < 0 then
    .error (.badRequest (field ++ " must be a non-negative number"))
  else .ok ()

end LinkGauge
