import LinkGauge.Proofs.Service.Admission

/-!
# Coherence of throughput records

A record says that data moved, and then everything that was measured and no error, or that none
moved, and then nothing measured and an error. Records of submissions that pass the check satisfy
all conditions of the table, and nothing but such records comes to the store.
-/

namespace LinkGauge

/-! ### Bandwidths -/

/-- What is finite and not below zero is at least zero. -/
lemma zero_le_of_isFinite {x : Float} (finite : x.isFinite) (notBelow : ¬x < 0) : 0 ≤ x := by
  have zero : (0 : Float).toModel.unpack = .zero .positive := rfl
  simp only [LT.lt, Float.lt, Float.Model.lt, zero, decide_eq_true_eq] at notBelow
  simp only [LE.le, Float.le, Float.Model.le, zero, decide_eq_true_eq]
  simp only [Float.isFinite, Float.Model.isFinite] at finite
  -- Of what is finite, only a number with a minus sign is not at least zero, and that is below it.
  cases eq : x.toModel.unpack with
  | infinity => rw [eq] at finite; cases finite
  | notANumber => rw [eq] at finite; cases finite
  | zero => rfl
  | finite sign mantissa =>
    rw [eq] at notBelow
    cases sign with
    | positive => rfl
    | negative => exact absurd rfl notBelow

lemma zero_le_of_requireBandwidth {field : String} {x : Float}
    (checked : requireBandwidth field x = .ok ()) : 0 ≤ x := by
  simp only [requireBandwidth] at checked
  split at checked
  · cases checked
  next fits =>
    simp only [Bool.or_eq_true, Bool.not_eq_true', decide_eq_true_eq, not_or,
      Bool.not_eq_false] at fits
    exact zero_le_of_isFinite fits.1 fits.2

namespace Throughput

/-! ### Records -/

/-- Data moved: everything that was measured is kept, and there is no error. -/
structure Record.Succeeded (s : Submission) (r : Record) : Prop where
  success : r.success = true
  moved : 0 < r.sentMbps ∨ 0 < r.receivedMbps
  sent : r.sentMbps = s.sentMbps
  received : r.receivedMbps = s.receivedMbps
  retransmits : r.retransmits = s.retransmits
  meanRtt : r.meanRttMs = s.meanRttMs
  error : r.error = none

/-- Nothing that was measured is kept, and there is an error that says something. It is the
submission's own if that one does. -/
structure Record.Failed (s : Submission) (r : Record) : Prop where
  success : r.success = false
  sent : r.sentMbps = 0
  received : r.receivedMbps = 0
  retransmits : r.retransmits = none
  meanRtt : r.meanRttMs = none
  error : ∃ reason, r.error = some reason ∧ isBlank reason = false ∧
    ∀ own, s.error = some own → isBlank own = false → reason = own

/-- What a record tells of a submission. -/
structure Record.Tells (s : Submission) (r : Record) : Prop where
  timestamp : r.timestamp = s.timestamp
  hostId : r.hostId = s.hostId
  durationSeconds : r.durationSeconds = s.durationSeconds
  transport : r.transport = s.transport
  daemon : r.daemon = s.daemon
  success : r.success = s.isSuccess
  outcome : if r.success then r.Succeeded s else r.Failed s

lemma Submission.moved_of_isSuccess {s : Submission} (h : s.isSuccess = true) :
    0 < s.sentMbps ∨ 0 < s.receivedMbps := by
  simp only [isSuccess, movedData, Bool.and_eq_true, Bool.or_eq_true, decide_eq_true_eq] at h
  exact h.2

/-- A reason is never blank. -/
lemma Record.failed_error (hostId : Int64) (seconds : Int32) (error daemon : String)
    (now : Instant) :
    ∃ reason, (failed hostId seconds error daemon now).error = some reason ∧
      isBlank reason = false ∧ (isBlank error = false → reason = error) := by
  cases blank : isBlank error with
  | true => exact ⟨"throughput test failed", by simp [failed, blank], by decide, nofun⟩
  | false => exact ⟨error, by simp [failed, blank], blank, fun _ => rfl⟩

lemma Record.tells_ofSubmission (s : Submission) : (ofSubmission s).Tells s := by
  cases success : s.isSuccess with
  | true =>
    simp only [ofSubmission, success, if_true]
    refine ⟨rfl, rfl, rfl, rfl, rfl, success.symm, ?_⟩
    exact ⟨rfl, s.moved_of_isSuccess success, rfl, rfl, rfl, rfl, rfl⟩
  | false =>
    simp only [ofSubmission, success, Bool.false_eq_true, if_false]
    refine ⟨rfl, rfl, rfl, rfl, rfl, success.symm, ?_⟩
    obtain ⟨reason, error, some, own⟩ := failed_error s.hostId s.durationSeconds
      (s.error.getD "no data transferred") s.daemon s.timestamp
    refine ⟨rfl, rfl, rfl, rfl, rfl, reason, error, some, ?_⟩
    intro given eq notBlank
    rw [eq] at own
    exact own notBlank

end Throughput

/-! ### Rows -/

namespace Store

/-- The conditions of the table of throughput tests. -/
structure TakesThroughput (row : Row) : Prop where
  given : ∀ column ∈ ["timestamp", "sent_mbps", "received_mbps", "duration_seconds", "protocol",
    "success", "daemon_id"], ∃ v, row.lookup column = some v ∧ v ≠ .null
  sent : ∃ x, row.lookup "sent_mbps" = some (.real x) ∧ 0 ≤ x
  received : ∃ x, row.lookup "received_mbps" = some (.real x) ∧ 0 ≤ x
  transport : ∃ name ∈ ["TCP", "UDP"], row.lookup "protocol" = some (.text name)
  /-- A success has no error. A failure has one that is not empty, and no bandwidth. -/
  failureHasError :
    row.lookup "success" = some (.bool true) ∧ row.lookup "error_message" = some .null ∨
      row.lookup "success" = some (.bool false) ∧
        (∃ error, row.lookup "error_message" = some (.text error) ∧ error ≠ "") ∧
        row.lookup "sent_mbps" = some (.real 0) ∧ row.lookup "received_mbps" = some (.real 0)

end Store

open Throughput (Record Submission)

/-- A submission passes the check exactly if it keeps all rules. -/
lemma Throughput.Submission.check_eq_ok {s : Submission} :
    s.check = .ok () ↔ requireDaemon s.daemon = .ok () ∧
      requireBandwidth "sent_mbps" s.sentMbps = .ok () ∧
      requireBandwidth "received_mbps" s.receivedMbps = .ok () ∧ 0 < s.durationSeconds := by
  simp [Submission.check, bind_eq_ok, Unique.exists_iff]

/-- Bandwidths of a submission that passes the check are not negative. -/
lemma Throughput.Submission.zero_le_of_check {s : Submission} (checked : s.check = .ok ()) :
    0 ≤ s.sentMbps ∧ 0 ≤ s.receivedMbps := by
  obtain ⟨-, sent, received, -⟩ := check_eq_ok.mp checked
  exact ⟨zero_le_of_requireBandwidth sent, zero_le_of_requireBandwidth received⟩

namespace Store

/-- The table takes what tells of a submission that passes the check. -/
lemma takesThroughput_of_tells {s : Submission} {r : Record} (tells : r.Tells s)
    (checked : s.check = .ok ()) : TakesThroughput (Statement.throughputColumns r) := by
  have given : ∀ column ∈ ["timestamp", "sent_mbps", "received_mbps", "duration_seconds",
      "protocol", "success", "daemon_id"],
      ∃ v, (Statement.throughputColumns r).lookup column = some v ∧ v ≠ .null := by
    simp only [List.forall_mem_cons]
    refine ⟨⟨_, rfl, nofun⟩, ⟨_, rfl, nofun⟩, ⟨_, rfl, nofun⟩, ⟨_, rfl, nofun⟩, ⟨_, rfl, nofun⟩,
      ⟨_, rfl, nofun⟩, ⟨_, rfl, nofun⟩, List.forall_mem_nil _⟩
  have transport : ∃ name ∈ ["TCP", "UDP"],
      (Statement.throughputColumns r).lookup "protocol" = some (.text name) := by
    refine ⟨r.transport.name, ?_, rfl⟩
    cases r.transport <;> decide
  have outcome := tells.outcome
  split at outcome
  next success =>
    obtain ⟨sent, received⟩ := Throughput.Submission.zero_le_of_check checked
    refine ⟨given, ⟨_, rfl, ?_⟩, ⟨_, rfl, ?_⟩, transport, .inl ⟨?_, ?_⟩⟩
    · rwa [outcome.sent]
    · rwa [outcome.received]
    · exact congrArg (some ∘ Value.bool) success
    · exact congrArg (some ∘ Value.ofOption Value.text) outcome.error
  next failure =>
    obtain ⟨reason, error, notBlank, -⟩ := outcome.error
    have zero : (0 : Float) ≤ 0 := by decide
    refine ⟨given, ⟨_, rfl, ?_⟩, ⟨_, rfl, ?_⟩, transport, .inr ⟨?_, ⟨reason, ?_, ?_⟩, ?_, ?_⟩⟩
    · rwa [outcome.sent]
    · rwa [outcome.received]
    · exact congrArg (some ∘ Value.bool) outcome.success
    · exact congrArg (some ∘ Value.ofOption Value.text) error
    · rintro rfl
      cases notBlank
    · exact congrArg (some ∘ Value.real) outcome.sent
    · exact congrArg (some ∘ Value.real) outcome.received

/-- If a throughput test is stored, its record tells of a submission that passed the check, and the
table takes it. -/
def Access.Question.Coherent (q : Access.Question) : Prop :=
  ∀ r : Record, q = .execute (.createThroughput r) →
    ∃ s : Submission, s.check = .ok () ∧ r.Tells s ∧ TakesThroughput (Statement.throughputColumns r)

lemma Access.Question.Checked.coherent {q : Access.Question} (h : q.Checked) : q.Coherent := by
  rintro r rfl
  obtain ⟨s, checked, rfl⟩ := h
  have tells := Record.tells_ofSubmission s
  exact ⟨s, checked, tells, takesThroughput_of_tells tells checked⟩

end Store

/-- What the service asks is coherent where it is asked of the store. -/
def Service.Coherent : Service.Serving.Question → Prop
  | .inr (.inr q) => q.Coherent
  | _ => True

/-- The record of every submission tells of it, and the table takes it if the submission passes the
check. Without data it is no success, whatever the submission says. Nothing else comes to the
store, neither by a request nor by a delivery. -/
theorem records_are_coherent :
    (∀ s : Submission,
      (Record.ofSubmission s).Tells s ∧
      (s.check = .ok () →
        Store.TakesThroughput (Store.Statement.throughputColumns (.ofSubmission s))) ∧
      (¬0 < s.sentMbps → ¬0 < s.receivedMbps → (Record.ofSubmission s).success = false)) ∧
    (∀ (rig : Rig) (request : Web.Request),
      (Service.respond rig request).Asks Service.Coherent) ∧
    ∀ delivery : Delivery.Question,
      (Delivery.direct delivery).Asks Store.Access.Question.Coherent := by
  refine ⟨?record, ?request, ?delivery⟩
  case record =>
    intro s
    have tells := Record.tells_ofSubmission s
    refine ⟨tells, Store.takesThroughput_of_tells tells, ?_⟩
    intro notSent notReceived
    rw [tells.success]
    simp [Submission.isSuccess, Submission.movedData, notSent, notReceived]
  case request =>
    intro rig request
    refine (Service.admitted_respond rig request).mono ?_
    rintro (q | q | q) admitted
    · trivial
    · trivial
    · exact Store.Access.Question.Checked.coherent admitted
  case delivery =>
    intro delivery
    exact (Delivery.asks_direct delivery).mono fun _ => Store.Access.Question.Checked.coherent

/-- A submission that says it succeeded, of no data and with a blank error. -/
def Throughput.Submission.hollow : Submission :=
  ⟨⟨1650000000, 0, by decide⟩, 7, 0, 0, some 3, none, 10, .udp, some true, some " ", "probe"⟩

/-- Such a submission passes the check and is stored as a failure with a reason. -/
theorem records_are_coherent_hollow :
    Submission.hollow.check = .ok () ∧ (Record.ofSubmission .hollow).success = false ∧
      (Record.ofSubmission .hollow).Failed .hollow ∧
      Store.TakesThroughput (Store.Statement.throughputColumns (.ofSubmission .hollow)) := by
  have checked : Submission.hollow.check = .ok () := rfl
  obtain ⟨tells, takes, failure⟩ := records_are_coherent.1 .hollow
  have failed := failure (by decide) (by decide)
  have outcome := tells.outcome
  rw [failed] at outcome
  exact ⟨checked, failed, outcome, takes checked⟩

end LinkGauge
