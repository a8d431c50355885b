import LinkGauge.Proofs.Json.FiniteNumbers
import LinkGauge.Proofs.Speed.Outputs
import LinkGauge.Proofs.Throughput.Lengths
import LinkGauge.Speed.Submission

/-!
# Readings that can be stored

Numbers of a document are finite, and so is every bandwidth that is given in bits. One that is given
in bytes is multiplied by eight before it is divided, which leaves the range of doubles from
`2 ^ 1021` bytes per second on. A reading with such a bandwidth is refused where it is submitted;
every other reading is accepted.
-/

namespace LinkGauge

/-! ### Bandwidths -/

section Bandwidths

open Float.Model.UnpackedFloat (Sign)

variable {x : Float}

lemma atLeastZero_of_isFinite (finite : x.isFinite = true) : (atLeastZero x).isFinite = true := by
  rw [atLeastZero]
  split
  · exact finite
  · rfl

/-- A bandwidth is at least zero, and so not below it. -/
lemma zero_le_atLeastZero (x : Float) : 0 ≤ atLeastZero x ∧ ¬atLeastZero x < 0 := by
  rw [atLeastZero]
  split
  next positive => exact Double.of_positive positive
  · decide

/-- What is infinite is kept if it is above zero. -/
lemma atLeastZero_of_infinite (infinite : x.toModel.unpack = .infinity .positive) :
    atLeastZero x = x := by
  have positive : 0 < x := by
    rw [Double.lt_iff, infinite]
    rfl
  exact if_pos positive

lemma atLeastZero_of_negative (infinite : x.toModel.unpack = .infinity .negative) :
    atLeastZero x = 0 := by
  have negative : ¬0 < x := by
    rw [Double.lt_iff, infinite]
    nofun
  exact if_neg negative

namespace BandwidthUnit

/-- There is room for every number of bits, and for so many bytes that eight times as many are a
double. -/
def HasRoom (unit : BandwidthUnit) (x : Float) : Prop :=
  unit = .bitsPerSecond ∨ x < Double.eighth

instance (unit : BandwidthUnit) (x : Float) : Decidable (unit.HasRoom x) :=
  inferInstanceAs (Decidable (_ ∨ _))

lemma zero_le_toMegabits (unit : BandwidthUnit) (x : Float) :
    0 ≤ unit.toMegabits x ∧ ¬unit.toMegabits x < 0 := by
  cases unit <;> exact zero_le_atLeastZero _

/-- A bandwidth is finite exactly if the unit has room for it. -/
lemma isFinite_toMegabits (unit : BandwidthUnit) (finite : x.isFinite = true) :
    (unit.toMegabits x).isFinite = true ↔ unit.HasRoom x := by
  cases unit with
  | bitsPerSecond =>
    exact iff_of_true (atLeastZero_of_isFinite (Double.isFinite_div_million finite)) (.inl rfl)
  | bytesPerSecond =>
    simp only [HasRoom, reduceCtorEq, false_or]
    change (atLeastZero (x * 8 / 1000000)).isFinite = true ↔ _
    rcases Double.mul_eight_cases finite with ⟨room, finite | infinite⟩ | ⟨full, infinite⟩
    · exact iff_of_true (atLeastZero_of_isFinite (Double.isFinite_div_million finite)) room
    · rw [atLeastZero_of_negative (Double.unpack_div_million_of_infinite infinite)]
      exact iff_of_true rfl room
    · have infinite := Double.unpack_div_million_of_infinite infinite
      rw [atLeastZero_of_infinite infinite, Double.isFinite_eq, infinite]
      exact iff_of_false nofun full

end BandwidthUnit

end Bandwidths

namespace Speed

open Node (Finite)
open BandwidthUnit (zero_le_toMegabits)
open Layout (build_field)

/-! ### Finite outputs -/

section Outputs

variable {n : Node} {o : Output}

lemma isFinite_of_float {x : Float} (finite : n.Finite) (read : Decoder.float n = .ok x) :
    x.isFinite = true := by
  obtain ⟨v, rfl, rfl⟩ := Decoder.float_eq_ok.mp read
  cases finite with
  | number h => exact h

lemma isFinite_of_transfer {x : Float} (finite : n.Finite) (read : transfer n = .ok x) :
    x.isFinite = true := by
  obtain ⟨m, there, read⟩ := part_transfer read
  exact isFinite_of_float (finite.part there) read

lemma Ping.isFinite_latency {p : Ping} (finite : n.Finite) (read : Ping.decoder n = .ok p) :
    p.latency.isFinite = true := by
  rcases build_field.mp (Ping.parts read).2 with ⟨m, there, read⟩ | ⟨-, missing⟩
  · exact isFinite_of_float (finite.part there) read
  · rw [← Except.ok.inj missing]
    rfl

/-- The numbers that an output must have are finite if all numbers of the document are. -/
structure Output.Finite (o : Output) : Prop where
  download : o.download.isFinite = true
  upload : o.upload.isFinite = true
  latency : o.ping.latency.isFinite = true

lemma Output.finite_of_decoder (finite : n.Finite) (read : Output.decoder n = .ok o) :
    o.Finite := by
  have parts := Output.parts read
  refine ⟨?_, ?_, ?_⟩
  · rcases build_field.mp parts.download with ⟨m, there, read⟩ | ⟨-, missing⟩
    · exact isFinite_of_transfer (finite.part there) read
    · cases missing
  · rcases build_field.mp parts.upload with ⟨m, there, read⟩ | ⟨-, missing⟩
    · exact isFinite_of_transfer (finite.part there) read
    · cases missing
  · rcases build_field.mp parts.ping with ⟨m, there, read⟩ | ⟨-, missing⟩
    · exact Ping.isFinite_latency (finite.part there) read
    · rw [← Except.ok.inj missing]
      rfl

/-- The numbers of every output that is read are finite, whatever its text is. -/
lemma Output.finite_of_read {raw : Json.Bytes} (read : Json.read Output.decoder raw = .ok o) :
    o.Finite :=
  finite_of_decoder (Json.finite_scan raw) (Json.read_eq_ok.mp read).1

end Outputs

/-! ### Submissions -/

section Submissions

variable {unit : BandwidthUnit} {now : Instant} {daemon : DaemonId} {o : Output}

lemma requireBandwidth_toMegabits {field : String} {x : Float} (finite : x.isFinite = true) :
    requireBandwidth field (unit.toMegabits x) = if unit.HasRoom x then .ok ()
      else .error (.badRequest (field ++ " must be a non-negative number")) := by
  have notBelow : ¬unit.toMegabits x < 0 := (zero_le_toMegabits unit x).2
  rw [requireBandwidth]
  by_cases room : unit.HasRoom x
  · have fits := (unit.isFinite_toMegabits finite).mpr room
    simp [fits, notBelow, room]
  · have full := (unit.isFinite_toMegabits finite).not.mpr room
    simp [full, room]

/-- The rules for submissions come to one: there is room for both bandwidths. -/
lemma check_ofReading (finite : o.Finite) :
    (Submission.ofReading (o.reading unit now) daemon).check =
      if unit.HasRoom o.download then
        if unit.HasRoom o.upload then .ok ()
        else .error (.badRequest "upload_mbps must be a non-negative number")
      else .error (.badRequest "download_mbps must be a non-negative number") := by
  have named : requireDaemon daemon.text = .ok () := by
    rw [requireDaemon, daemon.isBlank_text]
    rfl
  have download : requireBandwidth "download_mbps" (unit.toMegabits o.download) = _ :=
    requireBandwidth_toMegabits finite.download
  have upload : requireBandwidth "upload_mbps" (unit.toMegabits o.upload) = _ :=
    requireBandwidth_toMegabits finite.upload
  simp only [Submission.check, Submission.ofReading, Output.reading, named, ok_bind, download,
    upload, finite.latency, if_true]
  split
  · rw [ok_bind]
    split <;> rfl
  · rfl

end Submissions

/-! ### Runs of two bandwidths -/

/-- The bandwidth of one direction. -/
def transferText (bandwidth : Json.Bytes) : Json.Bytes :=
  Utf8.encode "\x7b\"bandwidth\":" ++ (bandwidth ++ [0x7D])

/-- The output of a run that tells two bandwidths and nothing else. -/
def pairText (download upload : Json.Bytes) : Json.Bytes :=
  Utf8.encode "\x7b\"download\":" ++ (transferText download ++
    (Utf8.encode ",\"upload\":" ++ (transferText upload ++ [0x7D])))

/-- What such a run is read as. -/
def pairOutput (download upload : Number) : Output :=
  ⟨none, ⟨0, 0⟩, download.toFloat, upload.toFloat, none, none, ⟨none, none⟩, none⟩

lemma read_pair {d u : Json.Bytes} {x y : Number}
    (download : Json.Phrase 125 d (.value (.number x)))
    (upload : Json.Phrase 125 u (.value (.number y))) :
    Json.read Output.decoder (pairText d u) = .ok (pairOutput x y) := by
  have transfer {v : Json.Bytes} {n : Node} (value : Json.Phrase 125 v (.value n)) :=
    Json.Phrase.openObject (.keyed "bandwidth" (by decide) value .close)
  have text := Json.Phrase.openObject (.keyed "download" (by decide) (transfer download)
    (.keyed "upload" (by decide) (transfer upload) .close))
  exact text.isText.read _

/-- Whatever output is read, its reading has finite round trips and bandwidths that are not
negative. The reading can be stored, under the name of any process, exactly if the unit has room for
both bandwidths of the output, as it always has for bits. -/
theorem room_decides_storage {raw : Json.Bytes} {unit : BandwidthUnit} {now : Instant} {r : Reading}
    (accepted : read raw unit now = .ok r) :
    ∃ o, Json.read Output.decoder raw = .ok o ∧ r = o.reading unit now ∧
      r.pingMs.isFinite = true ∧ 0 ≤ r.downloadMbps ∧ 0 ≤ r.uploadMbps ∧
      (r.downloadMbps.isFinite = true ↔ unit.HasRoom o.download) ∧
      (r.uploadMbps.isFinite = true ↔ unit.HasRoom o.upload) ∧
      ∀ daemon : DaemonId, isBlank daemon.text = false ∧
        (Submission.ofReading r daemon).check =
          if unit.HasRoom o.download then
            if unit.HasRoom o.upload then .ok ()
            else .error (.badRequest "upload_mbps must be a non-negative number")
          else .error (.badRequest "download_mbps must be a non-negative number") := by
  obtain ⟨o, found, rfl⟩ := exists_output accepted
  have finite := Output.finite_of_read found
  refine ⟨o, found, rfl, finite.latency, (zero_le_toMegabits unit _).1,
    (zero_le_toMegabits unit _).1, unit.isFinite_toMegabits finite.download,
    unit.isFinite_toMegabits finite.upload, ?_⟩
  intro daemon
  exact ⟨daemon.isBlank_text, check_ofReading finite⟩

/-- A run of eight bytes per second down and none up. -/
theorem room_decides_storage_brief :
    ∃ r, read (pairText [0x38] [0x30]) .bytesPerSecond (.mk 0 0) = .ok r ∧
      r.pingMs.isFinite = true ∧
      ∀ daemon : DaemonId, (Submission.ofReading r daemon).check = .ok () := by
  have eight : Json.Phrase 125 [0x38] (.value (.number (.natural 8))) := .digit rfl
  have zero : Json.Phrase 125 [0x30] (.value (.number (.natural 0))) := .digit rfl
  have found := read_pair eight zero
  have accepted : read (pairText [0x38] [0x30]) .bytesPerSecond (.mk 0 0) =
      .ok ((pairOutput (.natural 8) (.natural 0)).reading .bytesPerSecond (.mk 0 0)) := by
    rw [read, found]
  obtain ⟨o, same, -, ping, -, -, -, -, stored⟩ := room_decides_storage accepted
  obtain rfl : pairOutput (.natural 8) (.natural 0) = o := Except.ok.inj (found.symm.trans same)
  exact ⟨_, accepted, ping, fun daemon => (stored daemon).2⟩

/-- The number of `10 ^ 308`, as it is written. -/
def vast : Json.Bytes := [0x31, 0x65, 0x33, 0x30, 0x38]

/-- A double has room for this number. -/
lemma phrase_vast (depth : ℕ) :
    Json.Phrase depth vast (.value (.number (.real (Float.ofScientific 1 false 308)))) := by
  generalize big : Float.ofScientific 1 false 308 = x
  have finite : x.isFinite = true := by
    rw [← big]
    decide +kernel
  have number : Decimal.signed? false 1 308 = some x := by
    have notLarge : ¬310 < (308 : ℤ) + Decimal.digitCount 1 := by decide
    have notSmall : ¬(308 : ℤ) + Decimal.digitCount 1 < -330 := by decide
    have positive : decide ((308 : ℤ) < 0) = false := rfl
    have exponent : (308 : ℤ).natAbs = 308 := rfl
    simp only [Decimal.signed?, Decimal.nearest?, one_ne_zero, notLarge, notSmall, if_false,
      positive, exponent, big, finite, if_true, Option.map_some, Bool.false_eq_true]
  have node : Json.realNode false 1 308 = .number (.real x) := by
    rw [Json.realNode, number]
  have exponent : Json.PowerText [0x33, 0x30, 0x38] 308 := by
    have value : (Json.digitsValue [0x33, 0x30, 0x38] : ℤ) = 308 := by decide
    rw [← value]
    exact .unsigned ⟨List.all_eq_true.mp rfl, List.cons_ne_nil _ _⟩
  have whole : Json.IsWhole [0x31] := ⟨List.all_eq_true.mp rfl, .inr ⟨0x31, [], rfl, by decide⟩⟩
  rw [← node]
  exact .natural (.power whole (.inl rfl) exponent)

/-- A run of `10 ^ 308` bytes per second is read, and its reading cannot be stored. -/
theorem vast_reading_is_refused :
    ∃ r, read (pairText vast [0x31]) .bytesPerSecond (.mk 0 0) = .ok r ∧
      ∀ daemon : DaemonId, (Submission.ofReading r daemon).check =
        .error (.badRequest "download_mbps must be a non-negative number") := by
  have one : Json.Phrase 125 [0x31] (.value (.number (.natural 1))) := .digit rfl
  have found := read_pair (phrase_vast _) one
  have full : ¬BandwidthUnit.bytesPerSecond.HasRoom (Float.ofScientific 1 false 308) := by
    decide +kernel
  refine ⟨_, by rw [read, found], ?_⟩
  intro daemon
  rw [check_ofReading (Output.finite_of_read found)]
  exact if_neg full

end Speed

end LinkGauge
