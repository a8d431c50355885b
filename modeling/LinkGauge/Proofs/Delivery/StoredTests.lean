import LinkGauge.Proofs.Delivery.Simulation
import LinkGauge.Proofs.Throughput.Coherence

/-!
# Stored tests are submissions again

What is shown of a stored test can be read as a submission. That submission says what the first one
said, with the time cut to what is stored and, for a test that moved no data, with nothing measured
and the reason that was stored. To store it changes nothing any more.
-/

namespace LinkGauge

open Json (spelled present spelledPart decode_object)
open Layout (Reads under)

/-! ### Instants -/

/-- What was cut to microseconds is not cut further. -/
@[simp] lemma Instant.stored_stored (t : Instant) : t.stored.stored = t.stored := by
  by_cases kept : OnClock (t.toMicros / 1000000 + 946684800) ((t.toMicros % 1000000).toNat * 1000)
  · have cut : t.stored = ⟨_, _, kept⟩ := dif_pos kept
    have micros : t.stored.toMicros = t.toMicros := by
      rw [cut, toMicros]
      have exact : (t.toMicros / 1000000 + 946684800 - 946684800) * nanosPerSecond +
          ((t.toMicros % 1000000).toNat * 1000 : ℕ) = t.toMicros * 1000 := by
        simp only [nanosPerSecond]
        omega
      rw [exact]
      exact Int.mul_tdiv_cancel _ (by decide)
    rw [stored, dif_pos (by rw [micros]; exact kept)]
    simp only [micros]
    exact cut.symm
  · have whole : t.stored = t := dif_neg kept
    rw [whole, whole]

/-! ### Columns -/

namespace Store

/-- A column that may be null, of a value that is stored only if it is there. -/
lemma read_option {α : Type} {read : Reader α} {f : α → Value} (value : ∀ a, read (f a) = .ok a)
    (given : ∀ a, f a ≠ .null) (o : Option α) :
    Reader.option read (Value.ofOption f o) = .ok o := by
  cases o with
  | none => rfl
  | some a =>
    simp only [Value.ofOption, Reader.option]
    split
    next eq => exact absurd eq (given a)
    next => rw [value, map_ok]

lemma read_real (o : Option Float) :
    Reader.option Reader.real (Value.ofOption Value.real o) = .ok o :=
  read_option (f := Value.real) (fun _ => rfl) nofun o

lemma read_text (o : Option String) :
    Reader.option Reader.text (Value.ofOption Value.text o) = .ok o :=
  read_option (f := Value.text) (fun _ => rfl) nofun o

lemma read_int32 (n : Int32) : Reader.int32 (.ofInt32 n) = .ok n := by
  rw [Value.ofInt32, Reader.int32, Int32.toInt32_toInt64]

lemma read_transport (t : Transport) : Reader.transport (.text t.name) = .ok t := by
  cases t <;> rfl

/-- A column is read, and then what is left. -/
lemma read_then {α β : Type} {row : Row} {name : String} {read : Reader α} {v : Value} {a : α}
    {f : α → Except Problem β} {b : β} (found : row.lookup name = some v) (fits : read v = .ok a)
    (rest : f a = .ok b) : (row.read name read >>= f) = .ok b := by
  rw [Row.read, found, Option.getD_some, fits, mapError_ok, ok_bind, rest]

/-- The row that comes of an insert: its columns, under a number. -/
def numbered (id : Int64) (columns : Row) : Row := ("id", .integer id) :: columns

end Store

/-! ### Members -/

section Members

variable {α : Type} {find : String → Option Node} {name : String} {short : Option (Option α)}
  {absent : Except Failure (Option α)}

/-- A field that may be null, from a value that is written as null if it is not there. -/
lemma reads_nullable {d : Decoder α} {toJson : α → Json} {o : Option α}
    (found : find name = some (spelled (.ofOption toJson o)))
    (value : ∀ a ∈ o, d (spelled (toJson a)) = .ok a) (null : ∀ a, d .null ≠ .ok a) :
    Reads (Layout.field name (Decoder.option d) absent short) find o := by
  refine .field found ?_
  cases o with
  | none => rfl
  | some a => exact Json.decode_option (value a rfl) (null a)

end Members

/-- The text of a value that may be missing, or null. -/
lemma reads_nullableText {find : String → Option Node} {name : String}
    {short : Option (Option String)} {o : Option String}
    (found : find name = some (spelled (.ofOption .text o))) :
    Reads (Layout.field name (Decoder.option Decoder.string) (.ok none) short) find o :=
  reads_nullable found (fun s _ => Json.decode_text s) (fun _ eq => nomatch eq)

lemma reads_nullableReal {find : String → Option Node} {name : String}
    {short : Option (Option Float)} {o : Option Float}
    (found : find name = some (spelled (.ofOption .real o))) (back : ∀ x ∈ o, Json.ReadsBack x) :
    Reads (Layout.field name (Decoder.option Decoder.float) (.ok none) short) find o :=
  reads_nullable found (fun x mem => Json.decode_real (back x mem)) (fun _ eq => nomatch eq)

/-- An object with all its members is decoded as the value that a layout finds among them. -/
lemma decode_members {α : Type} {r : Layout α} {name : String} {l : List (String × Json)} {a : α}
    (distinct : (l.map Prod.fst).Nodup)
    (reads : Reads r (under ((l.map fun m => (m.1, some m.2)).map spelledPart)) a) :
    r.decoder name false (spelled (.object l)) = .ok a := by
  rw [← present_some l]
  apply decode_object
  · rw [List.map_map]
    exact distinct
  · exact reads

/-! ### Speed tests -/

namespace Speed

open Store (read_then read_real read_text)

/-- The submission with the time as it is stored. -/
def Submission.cut (s : Submission) : Submission := { s with timestamp := s.timestamp.stored }

/-- The stored test of a submission. -/
def Submission.kept (s : Submission) (id : Int64) : Test := { s.cut with id }

lemma readSpeed_numbered (s : Submission) (id : Int64) :
    Store.readSpeed (Store.numbered id (Store.Statement.speedColumns s)) = .ok (s.kept id) := by
  rw [Store.readSpeed]
  refine read_then rfl rfl (read_then rfl rfl (read_then rfl rfl (read_then rfl rfl
    (read_then rfl rfl ?_))))
  refine read_then rfl (read_real _) (read_then rfl (read_text _) (read_then rfl (read_text _)
    (read_then rfl (read_text _) (read_then rfl (read_text _) (read_then rfl (read_text _) ?_)))))
  exact read_then rfl rfl rfl

/-- What is shown of a stored test is its submission again. -/
lemma Test.decode_toJson {t : Test} (back : ∀ x ∈ t.toSubmission.reals, Json.ReadsBack x) :
    Submission.decoder (spelled t.toJson) = .ok t.toSubmission := by
  have real (x : Float) (mem : x ∈ t.toSubmission.reals) :
      Decoder.float (spelled (.real x)) = .ok x := Json.decode_real (back x mem)
  have jitter : ∀ x ∈ t.jitterMs, Json.ReadsBack x := fun x mem =>
    back x (List.mem_append_right _ (Option.mem_toList.mpr mem))
  apply decode_members (by simp)
  refine .seq (.seq (.seq (.seq (.seq (.seq (.seq (.seq (.seq (.seq (.map (.field rfl ?timestamp) _)
    (.field rfl ?download)) (.field rfl ?upload)) (.field rfl ?ping))
    (reads_nullableReal rfl jitter)) (reads_nullableText rfl)) (reads_nullableText rfl))
    (reads_nullableText rfl)) (reads_nullableText rfl)) (reads_nullableText rfl))
    (.field rfl ?daemon)
  case timestamp => exact Json.decode_instant t.timestamp
  case download => exact real _ (by simp [Submission.reals])
  case upload => exact real _ (by simp [Submission.reals])
  case ping => exact real _ (by simp [Submission.reals])
  case daemon => exact Json.decode_text t.daemon

/-- To store the cut submission changes nothing. -/
lemma speedColumns_cut (s : Submission) :
    Store.Statement.speedColumns s.cut = Store.Statement.speedColumns s := by
  simp [Store.Statement.speedColumns, Store.Value.ofInstant, Submission.cut]

end Speed

/-! ### Throughput tests -/

namespace Throughput

open Store (read_then read_real read_text read_int32 read_transport)

/-- The stored test of a record. -/
def Record.kept (r : Record) (id : Int64) : Test :=
  { id, timestamp := r.timestamp.stored, sentMbps := r.sentMbps, receivedMbps := r.receivedMbps,
    retransmits := r.retransmits, meanRttMs := r.meanRttMs, durationSeconds := r.durationSeconds,
    transport := r.transport, success := r.success, error := r.error, daemon := r.daemon,
    hostId := some r.hostId }

/-- The submission that a record can be read as. -/
def Record.again (r : Record) : Submission :=
  { timestamp := r.timestamp.stored, hostId := r.hostId, sentMbps := r.sentMbps,
    receivedMbps := r.receivedMbps, retransmits := r.retransmits, meanRttMs := r.meanRttMs,
    durationSeconds := r.durationSeconds, transport := r.transport, success := some r.success,
    error := r.error, daemon := r.daemon }

lemma readThroughput_numbered (r : Record) (id : Int64) :
    Store.readThroughput (Store.numbered id (Store.Statement.throughputColumns r)) =
      .ok (r.kept id) := by
  rw [Store.readThroughput]
  refine read_then rfl rfl (read_then rfl rfl (read_then rfl rfl (read_then rfl rfl
    (read_then rfl (read_real _) (read_then rfl (read_real _) ?_)))))
  refine read_then rfl (read_int32 _) (read_then rfl (read_transport _) (read_then rfl rfl
    (read_then rfl (read_text _) (read_then rfl rfl ?_))))
  exact read_then rfl rfl rfl

/-- What is shown of a stored test is a submission. -/
lemma Record.decode_kept {r : Record} (id : Int64)
    (back : ∀ x ∈ r.again.reals, Json.ReadsBack x) :
    Submission.decoder (spelled (r.kept id).toJson) = .ok r.again := by
  have real (x : Float) (mem : x ∈ r.again.reals) : Decoder.float (spelled (.real x)) = .ok x :=
    Json.decode_real (back x mem)
  have retransmits : ∀ x ∈ r.retransmits, Json.ReadsBack x := fun x mem =>
    back x (List.mem_append_left _ (List.mem_append_right _ (Option.mem_toList.mpr mem)))
  have meanRtt : ∀ x ∈ r.meanRttMs, Json.ReadsBack x := fun x mem =>
    back x (List.mem_append_right _ (Option.mem_toList.mpr mem))
  apply decode_members (by simp)
  refine .seq (.seq (.seq (.seq (.seq (.seq (.seq (.seq (.seq (.seq (.map (.field rfl ?timestamp) _)
    (.field rfl ?host)) (.field rfl ?sent)) (.field rfl ?received))
    (reads_nullableReal rfl retransmits)) (reads_nullableReal rfl meanRtt)) (.field rfl ?duration))
    (.field rfl ?transport)) (.field rfl ?success)) (reads_nullableText rfl)) (.field rfl ?daemon)
  case timestamp => exact Json.decode_instant _
  case host => exact Json.decode_int64 r.hostId
  case sent => exact real r.sentMbps (by simp [Submission.reals, again])
  case received => exact real r.receivedMbps (by simp [Submission.reals, again])
  case duration => exact Json.decode_int32 r.durationSeconds
  case transport => exact Json.decode_transport r.transport
  case success => rfl
  case daemon => exact Json.decode_text r.daemon

/-- A reason that was stored is a reason: it is kept as it is. -/
lemma Record.failed_again (hostId : Int64) (seconds : Int32) (error daemon : String)
    (now later : Instant) :
    Record.failed hostId seconds
        ((Record.failed hostId seconds error daemon now).error.getD "no data transferred") daemon
        later = { Record.failed hostId seconds error daemon now with timestamp := later } := by
  obtain ⟨reason, eq, some, -⟩ := Record.failed_error hostId seconds error daemon now
  rw [eq, Option.getD_some]
  simp only [Record.failed, some] at eq ⊢
  rw [eq]
  rfl

/-- To store the submission that a record can be read as changes nothing but the time, which is the
one that is stored. -/
lemma ofSubmission_again (s : Submission) :
    Record.ofSubmission (Record.ofSubmission s).again =
      { Record.ofSubmission s with timestamp := s.timestamp.stored } := by
  cases success : s.isSuccess with
  | true =>
    have moved : s.movedData = true := (Bool.and_eq_true_iff.mp success).2
    simp only [Record.ofSubmission, success, if_true]
    exact if_pos moved
  | false =>
    simp only [Record.ofSubmission, success, Bool.false_eq_true, if_false]
    exact congrArg (fun r : Record => { r with transport := s.transport })
      (Record.failed_again s.hostId s.durationSeconds (s.error.getD "no data transferred") s.daemon
        s.timestamp s.timestamp.stored)

/-- The submission that the record of a checked submission can be read as passes the check, too. -/
lemma check_again {s : Submission} (checked : s.check = .ok ()) :
    (Record.ofSubmission s).again.check = .ok () := by
  obtain ⟨daemon, sent, received, long⟩ := Submission.check_eq_ok.mp checked
  have tells := Record.tells_ofSubmission s
  apply Submission.check_eq_ok.mpr
  simp only [Record.again, tells.daemon, tells.durationSeconds]
  have outcome := tells.outcome
  split at outcome
  next => exact ⟨daemon, by rwa [outcome.sent], by rwa [outcome.received], long⟩
  next => exact ⟨daemon, by rw [outcome.sent]; rfl, by rw [outcome.received]; rfl, long⟩

/-- The doubles of a record are those of the submission, or zero. -/
lemma readsBack_again {s : Submission} (back : ∀ x ∈ s.reals, Json.ReadsBack x) :
    ∀ x ∈ (Record.ofSubmission s).again.reals, Json.ReadsBack x := by
  have zero : Json.ReadsBack 0 := by decide +kernel
  have outcome := (Record.tells_ofSubmission s).outcome
  split at outcome
  next =>
    simpa only [Submission.reals, Record.again, outcome.sent, outcome.received, outcome.retransmits,
      outcome.meanRtt] using back
  next =>
    simp only [Submission.reals, Record.again, outcome.sent, outcome.received, outcome.retransmits,
      outcome.meanRtt]
    simpa using zero

/-- What is stored of a record does not depend on more than microseconds of its time. -/
lemma throughputColumns_stored (r : Record) :
    Store.Statement.throughputColumns { r with timestamp := r.timestamp.stored } =
      Store.Statement.throughputColumns r := by
  simp [Store.Statement.throughputColumns, Store.Value.ofInstant]

end Throughput

end LinkGauge
