import Mathlib
import ModemBench.Bench.World
import ModemBench.Proofs.Encoding
import ModemBench.Proofs.Progress
/-!
How a run breaks off. It does so exactly where a call of the port fails: that call is the last
thing that happens, and the interruption keeps the records of the commands before.
-/

namespace ModemBench

namespace Sequence

variable {line : Line} {options : RunOptions} {c : Command} {es : List Exchange}

/-- Exchanges that end within a transmission, at the first call that fails. `cause` is what this
call stands for, after the bytes taken since the transmission began. -/
structure CutOff (port : String) (c : Command) (es : List Exchange) (cause : LinkError) : Prop where
  split : ∃ number before during last,
    es = before ++ ⟨.note (.sending c number), ()⟩ :: (during ++ [last]) ∧
    Sound before ∧ Sound during ∧ sendings during = [] ∧
    last.cause? port (during.map Exchange.amount).sum (c.line.utf8ByteSize + 2) = some cause
  short : ∀ p w t, cause = .writeStalled p w t → w < t

theorem CutOff.after {port : String} {before : List Exchange} {cause : LinkError}
    (hs : Sound before) (h : CutOff port c es cause) : CutOff port c (before ++ es) cause := by
  obtain ⟨⟨number, earlier, during, last, rfl, he, hd, hn, hc⟩, hshort⟩ := h
  exact ⟨⟨number, before ++ earlier, during, last, by simp, by simp [hs, he], hd, hn, hc⟩, hshort⟩

theorem CutOff.call {port : String} {cause : LinkError} (h : CutOff port c es cause) :
    ∃ before last, es = before ++ [last] ∧ Sound before ∧ last.fails = true := by
  obtain ⟨⟨number, before, during, last, rfl, hb, hd, hn, hc⟩, -⟩ := h
  refine ⟨before ++ ⟨.note (.sending c number), ()⟩ :: during, last, by simp, ?_, ?_⟩
  · simp [hb, hd, Exchange.fails]
  · rw [← Exchange.isSome_cause? port _ _ last, hc]
    rfl

theorem Attempted.cutOff {number : Nat} {cause : LinkError}
    (h : Attempted line options c number es (some (.error cause))) :
    CutOff line.port c es cause := by
  have hcut : ∃ rest, es = ⟨.note (.sending c number), ()⟩ :: rest ∧ sendings rest = [] ∧
      Cut line.port 0 c.wire.length rest cause := by
    obtain ⟨rest, hrest, hn⟩ := h.transmission
    refine ⟨rest, hrest, hn, ?_⟩
    cases h with
    | unsent send =>
      cases hrest
      exact send.cut
    | sent send set wait =>
      cases hrest
      refine Cut.after send.sound ?_
      refine Cut.after (Sound.note (.awaiting c)) ?_
      exact Cut.after set.quiet.sound (wait.cut _ _)
  obtain ⟨rest, rfl, hn, ⟨during, last, rfl, hd, hc⟩, hshort⟩ := hcut
  rw [sendings_append, List.append_eq_nil_iff] at hn
  rw [Nat.zero_add, Command.length_wire] at hc
  exact ⟨⟨number, [], during, last, rfl, .nil, hd, hn.1, hc⟩, hshort⟩

theorem Settled.sound {r : Option (Except LinkError (Nat × Ending × Bytes))}
    (h : Settled line options c es r) (hr : ∀ cause, r ≠ some (.error cause)) : Sound es := by
  cases h with
  | once first kept => exact first.sound (by simp)
  | halted first => exact first.sound (by simp)
  | twice first policy second | haltedAgain first policy second =>
    simp [first.sound, second.sound, resending, Exchange.fails]
  | cut | uncleared | cutAgain => exact absurd rfl (hr _)

/-- The second transmission, or the clearing before it, is cut off like the first. -/
theorem Settled.cutOff {cause : LinkError} (h : Settled line options c es (some (.error cause))) :
    CutOff line.port c es cause := by
  cases h with
  | cut first => exact first.cutOff
  | uncleared first policy e =>
    -- No second transmission has begun, so the clearing is part of the first.
    have hsound := first.sound (by simp)
    obtain ⟨rest, rfl, hn⟩ := first.transmission
    have hrest := (Sound.cons_iff.mp hsound).2
    refine ⟨⟨1, [], rest ++ [⟨.note (.retrying c), ()⟩], ⟨.clear, .error e⟩, by simp, .nil, ?_, ?_,
      rfl⟩, ?_⟩
    · simp [hrest, Exchange.fails]
    · simp [hn, Exchange.sending?]
    · intro p w t he
      cases he
  | cutAgain first policy second =>
    refine CutOff.after (first.sound (by simp)) (CutOff.after ?_ second.cutOff)
    simp [resending, Exchange.fails]

theorem Executed.sound {r : Option (Except LinkError Record)}
    (h : Executed line options c es r) (hr : ∀ cause, r ≠ some (.error cause)) : Sound es := by
  cases h with
  | recorded start finish settled record =>
    simp [settled.sound, Exchange.fails]
  | cut => exact absurd rfl (hr _)
  | halted start settled => simp [settled.sound, Exchange.fails]

theorem Executed.cutOff {cause : LinkError}
    (h : Executed line options c es (some (.error cause))) : CutOff line.port c es cause := by
  cases h with
  | cut start settled => exact CutOff.after (Quiet.clock start).sound settled.cutOff

@[simp] theorem sound_pause (options : RunOptions) (left : List Command) :
    Sound (pause options left) := by
  unfold pause
  split <;> simp [Exchange.fails]

theorem stages_sound {records : List Record} {segments : List (List Exchange)}
    (h : List.Forall₂ (Stage line options) records segments) : Sound segments.flatten := by
  induction h with
  | nil => exact .nil
  | cons stage rest ih =>
    obtain ⟨told, left, hnow, rfl⟩ := stage
    simp [hnow.sound, ih]

theorem Advanced.sound {total : Nat} {records : List Record} {commands : List Command}
    {r : Option (Except Interruption (Status × List Record))}
    (h : Advanced line options total records commands es r)
    (hr : ∀ i, r ≠ some (.error i)) : Sound es := by
  induction h with
  | finished => exact .nil
  | success now good rest ih => simp [now.sound, ih hr]
  | failure now | timedOut now | halted now => exact now.sound (by simp)
  | cut => exact absurd rfl (hr _)

/-- What an interruption says of the run that it broke off: the place, the records before it,
and the call that failed. -/
structure Interrupted (port : String) (commands : List Command) (es : List Exchange)
    (i : Interruption) : Prop where
  total : i.total = commands.length
  position : i.position = i.records.length + 1
  within : i.position ≤ commands.length
  told : i.records.map Record.command = commands.take (i.position - 1)
  good : ∀ r ∈ i.records, r.ending = .success
  underway : ∃ c, commands[i.position - 1]? = some c ∧ CutOff port c es i.cause

/-- A run breaks off exactly if a call of the port fails, whatever the port and the clock do. The
first call that fails is then the last exchange of the run, and the interruption tells of it and of
the commands before. -/
theorem run_interrupted {σ : Type} [World σ] (line : Line) (options : RunOptions)
    (patience : Nat) (commands : List Command) (w : σ) :
    ((∃ i, ((run line options patience commands).run.play w).result = some (.error i)) ↔
      ∃ e ∈ ((run line options patience commands).run.play w).exchanges, e.fails = true) ∧
    ∀ i, ((run line options patience commands).run.play w).result = some (.error i) →
      Interrupted line.port commands
        ((run line options patience commands).run.play w).exchanges i := by
  have hrun := run_course (Dialogue.play_transcript (run line options patience commands).run w)
  generalize ((run line options patience commands).run.play w).exchanges = es at hrun ⊢
  generalize ((run line options patience commands).run.play w).result = result at hrun ⊢
  have hbroken : ∀ i, result = some (.error i) → Interrupted line.port commands es i := by
    intro i hi
    cases hrun with
    | reported | halted => cases hi
    | cut course =>
      cases hi
      obtain ⟨new, segments, c, left, last, cause, rfl, rfl, hgood, rfl, hstages, hlast⟩ :=
        course.broken
      refine ⟨rfl, by simp, by simp, by simp, hgood, c, by simp, ?_⟩
      exact CutOff.after (Sound.note _) (CutOff.after (stages_sound hstages) hlast.cutOff)
  refine ⟨⟨?_, ?_⟩, hbroken⟩
  · rintro ⟨i, hi⟩
    obtain ⟨c, hc, hcut⟩ := (hbroken i hi).underway
    obtain ⟨before, last, rfl, -, hlast⟩ := hcut.call
    exact ⟨last, by simp, hlast⟩
  · rintro ⟨e, he, hfails⟩
    -- Only a run that broke off has had a call that fails.
    have hnot : ¬ Sound es := fun hsound => by simp [hsound e he] at hfails
    cases hrun with
    | reported course hreport =>
      have := course.sound (by simp)
      exact absurd (by simp [this, Exchange.fails]) hnot
    | cut => exact ⟨_, rfl⟩
    | halted course =>
      have := course.sound (by simp)
      exact absurd (by simp [this, Exchange.fails]) hnot

/-- The second command is not answered in time, and the flush of its second transmission fails. -/
theorem unflushed_run_interrupted :
    let bench : Bench :=
      { rig.modem.script := [⟨Verdict.successToken, 0⟩, ⟨[], 0⟩],
        rig.faults := [((.flush, 3), .error (.ofKind .brokenPipe))] }
    let played := (run ⟨"M", false⟩ ⟨some 0, 0, .retryOnce⟩ 3 [⟨"AT"⟩, ⟨"ATZ"⟩]).run.play bench
    let record : Record := ⟨⟨"AT"⟩, .success, 1, 0, "OK\r\n"⟩
    let i : Interruption := ⟨2, 2, [record], .writeFailed "M" (.ofKind .brokenPipe)⟩
    played.result = some (.error i) ∧ Interrupted "M" [⟨"AT"⟩, ⟨"ATZ"⟩] played.exchanges i := by
  intro bench played record i
  have h : played.result = some (.error i) := by cbv
  exact ⟨h, (run_interrupted _ _ _ _ _).2 _ h⟩

end Sequence

end ModemBench
