import LinkGauge.Proofs.Answers
import LinkGauge.Settings.Basic
import Mathlib.Tactic

/-!
# Settings that fit together

Settings are accepted exactly if they keep a few rules. What the daemon needs is asked only if it
runs.
-/

namespace LinkGauge.Settings

variable {s : Settings}

/-- What the daemon needs. -/
@[mk_iff]
structure DaemonReady (s : Settings) : Prop where
  speedInterval : s.testing.speedInterval.isZero = false
  throughputInterval : s.testing.throughputInterval.isZero = false
  duration : 1 ≤ s.testing.throughputDuration.seconds
  timeout : s.testing.speedTimeout.isZero = false
  runs : s.testing.maxConcurrentRuns ≠ 0
  speedTool : isBlank s.tools.speed = false
  throughputTool : isBlank s.tools.throughput = false

/-- What a remote service needs. -/
@[mk_iff]
structure Remote.Ready (r : Remote) : Prop where
  scheme : r.endpoint.scheme = "http" ∨ r.endpoint.scheme = "https"
  timeout : r.timeout.isZero = false

/-- All rules together. -/
@[mk_iff]
structure Accepted (s : Settings) : Prop where
  runs : s.daemon ∨ s.service
  daemon : s.daemon → s.DaemonReady
  destination : ∀ r, s.destination = .remote r → r.Ready
  database : s.needsDatabase → ∃ url, s.database.url = some url ∧ isBlank url = false
  connections : s.database.minConnections ≤ s.database.maxConnections

lemma refuseIf_eq_ok {refused : Bool} {reason : String} {u : Unit} :
    refuseIf refused reason = .ok u ↔ refused = false := by
  cases refused <;> simp [refuseIf]

lemma checkDaemon_eq_ok : s.checkDaemon = .ok () ↔ s.DaemonReady := by
  have whole : s.testing.throughputDuration.seconds ≠ 0 ↔
      1 ≤ s.testing.throughputDuration.seconds := Nat.one_le_iff_ne_zero.symm
  simp [checkDaemon, bind_eq_ok, refuseIf_eq_ok, daemonReady_iff, whole, and_assoc]

lemma Remote.check_eq_ok {r : Remote} : r.check = .ok () ↔ r.Ready := by
  simp only [Remote.check, bind_eq_ok, refuseIf_eq_ok, exists_const, Remote.ready_iff]
  simp [or_iff_not_imp_left]

lemma all_isBlank {url : Option String} :
    url.all isBlank = false ↔ ∃ text, url = some text ∧ isBlank text = false := by
  cases url <;> simp

/-- Settings are accepted exactly if they keep all rules. -/
theorem check_eq_ok : s.check = .ok () ↔ s.Accepted := by
  rw [accepted_iff]
  cases daemon : s.daemon with
  | true =>
    cases destination : s.destination with
    | direct =>
      simp [check, bind_eq_ok, Unique.exists_iff, refuseIf_eq_ok, checkDaemon_eq_ok, all_isBlank,
        daemon, destination]
    | remote r =>
      simp [check, bind_eq_ok, Unique.exists_iff, refuseIf_eq_ok, checkDaemon_eq_ok, all_isBlank,
        Remote.check_eq_ok, daemon, destination]
  | false =>
    cases destination : s.destination with
    | direct =>
      simp [check, bind_eq_ok, Unique.exists_iff, refuseIf_eq_ok, all_isBlank, daemon, destination]
    | remote r =>
      simp [check, bind_eq_ok, Unique.exists_iff, refuseIf_eq_ok, all_isBlank,
        Remote.check_eq_ok, daemon, destination]

/-- The usual settings, with a database. -/
def usual : Settings :=
  { Settings.default with
      database := { Database.default with url := some "postgres://localhost/speedctl" } }

example : usual.check = .ok () := rfl

example : Settings.default.check = .error ("Config validation: a database URL is required for " ++
    "direct submission or the ingest API. Set DATABASE_URL or database.url.") := rfl

end LinkGauge.Settings
