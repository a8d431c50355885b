import LinkGauge.Delivery.Remote
import LinkGauge.Host.Basic
import LinkGauge.Proofs.Json.Documents
import LinkGauge.Speed.Submission
import LinkGauge.Throughput.Submission

/-!
# Hosts and submissions are decoded again

What one side writes of a host or a submission is what the other side reads.
-/

namespace LinkGauge

open Json (spelled present spelledPart decode_object)
open Layout (Reads under)

/-! ### Hosts -/

namespace Host

/-- The members of a written host. -/
def parts (h : Host) : List (String × Option Json) :=
  [ ("id", some (.int64 h.id)),
    ("name", some (.text h.name)),
    ("hostname", some (.text h.hostname)),
    ("port", some (.int32 h.port)),
    ("category", some h.category.toJson),
    ("active", some (.bool h.active)),
    ("description", some (.ofOption .text h.description)),
    ("created_at", some h.createdAt.toJson),
    ("updated_at", some h.updatedAt.toJson) ]

lemma reads_parts (h : Host) : Reads layout (under (h.parts.map spelledPart)) h := by
  have description : Decoder.option Decoder.string (spelled (.ofOption .text h.description)) =
      .ok h.description := by
    cases h.description <;> rfl
  obtain ⟨id, name, hostname, port, category, active, _, createdAt, updatedAt⟩ := h
  refine .seq (.seq (.seq (.seq (.seq (.seq (.seq (.seq (.map (.field rfl ?id) _)
    (.field rfl ?name)) (.field rfl ?hostname)) (.field rfl ?port)) (.field rfl ?category))
    (.field rfl ?active)) (.field rfl description)) (.field rfl ?createdAt)) (.field rfl ?updatedAt)
  case id => exact Json.decode_int64 id
  case name => exact Json.decode_text name
  case hostname => exact Json.decode_text hostname
  case port => exact Json.decode_int32 port
  case category => exact Json.decode_category category
  case active => exact Json.decode_bool active
  case createdAt => exact Json.decode_instant createdAt
  case updatedAt => exact Json.decode_instant updatedAt

/-- A written host is decoded as itself. -/
theorem decode_toJson (h : Host) : decoder (spelled h.toJson) = .ok h :=
  decode_object (l := h.parts) (by simp [parts]) h.reads_parts

lemma nesting_toJson (h : Host) : Json.nesting h.toJson = 1 := by
  simp [toJson, Json.nesting, Json.nestingMembers, Json.int32, Category.toJson, Instant.toJson,
    Json.nesting_ofOption Json.nesting_text]

end Host

/-! ### Submissions -/

section Optional

variable {α : Type} {find : String → Option Node} {name : String} {short : Option (Option α)}

/-- A field that may be missing, from a value that is written only if it is there. -/
lemma reads_given {d : Decoder α} {toJson : α → Json} {o : Option α}
    (found : find name = (o.map toJson).map spelled)
    (value : ∀ a ∈ o, d (spelled (toJson a)) = .ok a) (null : ∀ a, d .null ≠ .ok a) :
    Reads (Layout.field name (Decoder.option d) (.ok none) short) find o := by
  cases o with
  | none => exact Reads.absent found
  | some a => exact Reads.field found (Json.decode_option (value a rfl) (null a))

lemma reads_text {short : Option (Option String)} {o : Option String}
    (found : find name = (o.map Json.text).map spelled) :
    Reads (Layout.field name (Decoder.option Decoder.string) (.ok none) short) find o :=
  reads_given found (fun s _ => Json.decode_text s) (fun _ eq => nomatch eq)

lemma reads_real {short : Option (Option Float)} {o : Option Float}
    (found : find name = (o.map Json.real).map spelled) (back : ∀ x ∈ o, Json.ReadsBack x) :
    Reads (Layout.field name (Decoder.option Decoder.float) (.ok none) short) find o :=
  reads_given found (fun x mem => Json.decode_real (back x mem)) (fun _ eq => nomatch eq)

lemma reads_bool {short : Option (Option Bool)} {o : Option Bool}
    (found : find name = (o.map Json.bool).map spelled) :
    Reads (Layout.field name (Decoder.option Decoder.bool) (.ok none) short) find o :=
  reads_given found (fun b _ => Json.decode_bool b) (fun _ eq => nomatch eq)

end Optional

namespace Speed.Submission

/-- The doubles of a submission. -/
def reals (s : Submission) : List Float :=
  [s.downloadMbps, s.uploadMbps, s.pingMs] ++ s.jitterMs.toList

/-- The members of a written submission. -/
def parts (s : Submission) : List (String × Option Json) :=
  [ ("timestamp", some s.timestamp.toJson),
    ("download_mbps", some (.real s.downloadMbps)),
    ("upload_mbps", some (.real s.uploadMbps)),
    ("ping_ms", some (.real s.pingMs)),
    ("jitter_ms", s.jitterMs.map .real),
    ("server_name", s.serverName.map .text),
    ("server_id", s.serverId.map .text),
    ("isp", s.isp.map .text),
    ("external_ip", s.externalIp.map .text),
    ("result_url", s.resultUrl.map .text),
    ("daemon_id", some (.text s.daemon)) ]

lemma toJson_eq (s : Submission) : s.toJson = .object (present s.parts) := by
  simp [toJson, parts, present, Json.present_map]

lemma reads_parts {s : Submission} (back : ∀ x ∈ s.reals, Json.ReadsBack x) :
    Reads layout (under (s.parts.map spelledPart)) s := by
  have real (x : Float) (mem : x ∈ s.reals) : Decoder.float (spelled (.real x)) = .ok x :=
    Json.decode_real (back x mem)
  have jitter : ∀ x ∈ s.jitterMs, Json.ReadsBack x := fun x mem =>
    back x (List.mem_append_right _ (Option.mem_toList.mpr mem))
  refine .seq (.seq (.seq (.seq (.seq (.seq (.seq (.seq (.seq (.seq (.map (.field rfl ?timestamp) _)
    (.field rfl ?download)) (.field rfl ?upload)) (.field rfl ?ping)) (reads_real rfl jitter))
    (reads_text rfl)) (reads_text rfl)) (reads_text rfl)) (reads_text rfl)) (reads_text rfl))
    (.field rfl ?daemon)
  case timestamp => exact Json.decode_instant s.timestamp
  case download => exact real _ (by simp [reals])
  case upload => exact real _ (by simp [reals])
  case ping => exact real _ (by simp [reals])
  case daemon => exact Json.decode_text s.daemon

/-- A written submission is decoded as itself. -/
theorem decode_toJson {s : Submission} (back : ∀ x ∈ s.reals, Json.ReadsBack x) :
    decoder (spelled s.toJson) = .ok s := by
  rw [toJson_eq]
  exact decode_object (by simp [parts]) (reads_parts back)

lemma nesting_toJson (s : Submission) : Json.nesting s.toJson = 1 := by
  simp [toJson, Json.nesting, Json.nestingMembers, Instant.toJson,
    Json.nestingMembers_memberIf Json.nesting_real, Json.nestingMembers_memberIf Json.nesting_text]

end Speed.Submission

namespace Throughput.Submission

/-- The doubles of a submission. -/
def reals (s : Submission) : List Float :=
  [s.sentMbps, s.receivedMbps] ++ s.retransmits.toList ++ s.meanRttMs.toList

/-- The members of a written submission. -/
def parts (s : Submission) : List (String × Option Json) :=
  [ ("timestamp", some s.timestamp.toJson),
    ("host_id", some (.int64 s.hostId)),
    ("sent_mbps", some (.real s.sentMbps)),
    ("received_mbps", some (.real s.receivedMbps)),
    ("retransmits", s.retransmits.map .real),
    ("mean_rtt_ms", s.meanRttMs.map .real),
    ("duration_seconds", some (.int32 s.durationSeconds)),
    ("protocol", some s.transport.toJson),
    ("success", s.success.map .bool),
    ("error_message", s.error.map .text),
    ("daemon_id", some (.text s.daemon)) ]

lemma toJson_eq (s : Submission) : s.toJson = .object (present s.parts) := by
  simp [toJson, parts, present, Json.present_map]

lemma reads_parts {s : Submission} (back : ∀ x ∈ s.reals, Json.ReadsBack x) :
    Reads layout (under (s.parts.map spelledPart)) s := by
  have real (x : Float) (mem : x ∈ s.reals) : Decoder.float (spelled (.real x)) = .ok x :=
    Json.decode_real (back x mem)
  have retransmits : ∀ x ∈ s.retransmits, Json.ReadsBack x := fun x mem =>
    back x (List.mem_append_left _ (List.mem_append_right _ (Option.mem_toList.mpr mem)))
  have meanRtt : ∀ x ∈ s.meanRttMs, Json.ReadsBack x := fun x mem =>
    back x (List.mem_append_right _ (Option.mem_toList.mpr mem))
  refine .seq (.seq (.seq (.seq (.seq (.seq (.seq (.seq (.seq (.seq (.map (.field rfl ?timestamp) _)
    (.field rfl ?host)) (.field rfl ?sent)) (.field rfl ?received)) (reads_real rfl retransmits))
    (reads_real rfl meanRtt)) (.field rfl ?duration)) (.field rfl ?transport)) (reads_bool rfl))
    (reads_text rfl)) (.field rfl ?daemon)
  case timestamp => exact Json.decode_instant s.timestamp
  case host => exact Json.decode_int64 s.hostId
  case sent => exact real _ (by simp [reals])
  case received => exact real _ (by simp [reals])
  case duration => exact Json.decode_int32 s.durationSeconds
  case transport => exact Json.decode_transport s.transport
  case daemon => exact Json.decode_text s.daemon

/-- A written submission is decoded as itself. -/
theorem decode_toJson {s : Submission} (back : ∀ x ∈ s.reals, Json.ReadsBack x) :
    decoder (spelled s.toJson) = .ok s := by
  rw [toJson_eq]
  exact decode_object (by simp [parts]) (reads_parts back)

lemma nesting_toJson (s : Submission) : Json.nesting s.toJson = 1 := by
  simp [toJson, Json.nesting, Json.nestingMembers, Json.int32, Transport.toJson, Instant.toJson,
    Json.nestingMembers_memberIf Json.nesting_real, Json.nestingMembers_memberIf Json.nesting_text,
    Json.nestingMembers_memberIf Json.nesting_bool]

end Throughput.Submission

/-! ### Stored tests -/

/-- All members of an object are there. -/
lemma present_some (l : List (String × Json)) : present (l.map fun m => (m.1, some m.2)) = l := by
  induction l with
  | nil => rfl
  | cons m l ih => rw [List.map_cons, present, ih]

/-- The number of an object is read, whatever else the object has. -/
lemma number_object {id : Int64} {l : List (String × Json)}
    (distinct : (("id", Json.int64 id) :: l).Pairwise fun m m' => m.1 ≠ m'.1) :
    Delivery.number (spelled (.object (("id", .int64 id) :: l))) = .ok id := by
  have names : ((("id", Json.int64 id) :: l).map Prod.fst).Nodup := List.pairwise_map.mpr distinct
  rw [← present_some (("id", Json.int64 id) :: l)]
  apply decode_object
  · rw [List.map_map]
    exact names
  · exact .field rfl (Json.decode_int64 id)

theorem Speed.Test.number_toJson (t : Speed.Test) :
    Delivery.number (spelled t.toJson) = .ok t.id :=
  number_object (by simp)

theorem Throughput.Test.number_toJson (t : Throughput.Test) :
    Delivery.number (spelled t.toJson) = .ok t.id :=
  number_object (by simp)

lemma Speed.Test.nesting_toJson (t : Speed.Test) : Json.nesting t.toJson = 1 := by
  simp [toJson, Json.nesting, Json.nestingMembers, Instant.toJson,
    Json.nesting_ofOption Json.nesting_real, Json.nesting_ofOption Json.nesting_text]

lemma Throughput.Test.nesting_toJson (t : Throughput.Test) : Json.nesting t.toJson = 1 := by
  simp [toJson, Json.nesting, Json.nestingMembers, Json.int32, Transport.toJson, Instant.toJson,
    Json.nesting_ofOption Json.nesting_real, Json.nesting_ofOption Json.nesting_text,
    Json.nesting_ofOption Json.nesting_int64]

end LinkGauge
