import LinkGauge.Proofs.Plans
import LinkGauge.Speed.Run

/-!
# Speed runs from their beginning to their end

A speed run runs the tool once and hands on why it came to nothing. Only a reading is submitted, and
what is said to that is what the run comes to.
-/

namespace LinkGauge.Rig

open Plan (Turn)

variable {r : Rig} {turns : List (Turn Measuring)} {a : Except Problem Int64}

/-- All that comes up in a speed run, and what the run comes to. -/
inductive SpeedRun (r : Rig) : List (Turn Measuring) → Except Problem Int64 → Prop where
  | failed (p : Problem) : SpeedRun r [⟨.inr (.inl (.run r.speedCommand)), .error p⟩] (.error p)
  | unread {raw : Json.Bytes} {now : Instant} {p : Problem}
      (unread : Speed.read raw r.testing.speedUnit now = .error p) :
      SpeedRun r [⟨.inr (.inl (.run r.speedCommand)), .ok raw⟩, ⟨.inr (.inl .now), now⟩] (.error p)
  | submitted {raw : Json.Bytes} {now : Instant} {reading : Speed.Reading}
      (read : Speed.read raw r.testing.speedUnit now = .ok reading) (taken : Except Problem Int64) :
      SpeedRun r
        [ ⟨.inr (.inl (.run r.speedCommand)), .ok raw⟩, ⟨.inr (.inl .now), now⟩,
          ⟨.inr (.inr (.speed (.ofReading reading r.daemon))), taken⟩ ] taken

lemma speedRun_of_ends (ends : r.speed.Ends turns a) : SpeedRun r turns a := by
  obtain ⟨raw, rest, rfl, going⟩ := Plan.ends_ask.mp ends
  cases raw with
  | error p =>
    obtain ⟨rfl, rfl⟩ := Plan.ends_done.mp going
    exact .failed p
  | ok raw =>
    obtain ⟨now, more, rfl, reading⟩ := Plan.ends_ask.mp going
    have reading : Plan.Ends
      (r.submitReading (Speed.read raw r.testing.speedUnit now)) more a := reading
    cases read : Speed.read raw r.testing.speedUnit now with
    | error p =>
      rw [read] at reading
      obtain ⟨rfl, rfl⟩ := Plan.ends_done.mp reading
      exact .unread read
    | ok result =>
      rw [read] at reading
      obtain ⟨taken, none, rfl, last⟩ := Plan.ends_ask.mp reading
      obtain ⟨rfl, rfl⟩ := Plan.ends_done.mp last
      exact .submitted read _

end LinkGauge.Rig
