import ModemBench.Bench.World
import ModemBench.Proofs.Desk
/-!
Clocks. Nothing that happens in a world makes its clock go back; behind a port of its own, looking
at it and taking notes take no time.
-/

namespace ModemBench

/-- The world tells this time, in microseconds, and it never goes back. -/
structure Clock {σ : Type} [World σ] (time : σ → Nat) : Prop where
  tells : ∀ w, (World.answer .clock w).1 = time w
  onward : ∀ q w, time w ≤ time (World.answer q w).2

/-- Only calls and sleeps move the clock. -/
structure PortClock {σ : Type} [World σ] (time : σ → Nat) : Prop extends Clock time where
  looked : ∀ w, time (World.answer .clock w).2 = time w
  judged : ∀ moment w, time (World.answer (.tellable moment) w).2 = time w
  noted : ∀ entry w, time (World.answer (.note entry) w).2 = time w

section

variable {σ : Type} [World σ] {time : σ → Nat} {w w' : σ}

theorem Clock.answered (clock : Clock time) {q : Ask} {answer : q.Answer}
    (h : World.answer q w = (answer, w')) : time w ≤ time w' := by
  have := clock.onward q w
  rwa [h] at this

theorem Clock.told (clock : Clock time) {now : Nat} (h : World.answer .clock w = (now, w')) :
    now = time w := by
  have htells := clock.tells w
  rwa [h] at htells

theorem PortClock.unmoved (clock : PortClock time) {now : Nat}
    (h : World.answer .clock w = (now, w')) : time w' = time w := by
  have hlooked := clock.looked w
  rwa [h] at hlooked

theorem PortClock.judging (clock : PortClock time) {moment : Nat} {possible : Bool}
    (h : World.answer (.tellable moment) w = (possible, w')) : time w' = time w := by
  have hjudged := clock.judged moment w
  rwa [h] at hjudged

theorem PortClock.written (clock : PortClock time) {entry : Note} {answer : Unit}
    (h : World.answer (.note entry) w = (answer, w')) : time w' = time w := by
  have hnoted := clock.noted entry w
  rwa [h] at hnoted

end

theorem Desk.clock : PortClock Desk.now where
  tells _ := rfl
  onward q d := by
    cases q with
    | write | flush | read | clear | sleep => exact Nat.le_add_right _ _
    | _ => exact Nat.le_refl _
  looked _ := rfl
  judged _ _ := rfl
  noted _ _ := rfl

namespace Rig

theorem now_obey (rig : Rig) : rig.obey.now = rig.now := by
  unfold obey
  split <;> rfl

theorem now_le_write (bytes : Bytes) (rig : Rig) : rig.now ≤ (rig.write bytes).2.now := by
  unfold write
  dsimp only
  split
  · exact Nat.le_refl _
  · exact Nat.le_refl _
  · split
    · exact Nat.le_add_right _ _
    · rw [now_obey]
      exact Nat.le_add_right _ _

theorem now_flush (rig : Rig) : rig.flush.2.now = rig.now := by
  unfold flush
  dsimp only
  split <;> rfl

theorem now_le_read (cap : Nat) (rig : Rig) : rig.now ≤ (rig.read cap).2.now := by
  unfold read
  dsimp only
  split
  · exact Nat.le_refl _
  · split
    · exact Nat.le_refl _
    · exact Nat.le_refl _
    · split <;> exact Nat.le_add_right _ _

theorem now_clear (rig : Rig) : rig.clear.2.now = rig.now := by
  unfold clear
  dsimp only
  split <;> rfl

end Rig

theorem Bench.clock : PortClock fun b : Bench => b.rig.now where
  tells _ := rfl
  onward q b := by
    cases q with
    | write bytes => exact Rig.now_le_write bytes b.rig
    | flush => exact Nat.le_of_eq (Rig.now_flush b.rig).symm
    | read cap => exact Rig.now_le_read cap b.rig
    | clear => exact Nat.le_of_eq (Rig.now_clear b.rig).symm
    | sleep duration => exact Nat.le_add_right _ _
    | attach serial =>
      change b.rig.now ≤ (b.attach serial).2.rig.now
      unfold Bench.attach
      split <;> exact Nat.le_refl _
    | _ => exact Nat.le_refl _
  looked _ := rfl
  judged _ _ := rfl
  noted _ _ := rfl

end ModemBench
