import ModemBench.Line
import ModemBench.Proofs.Traffic
import ModemBench.Proofs.Transcript
/-!
The courses of the line: what pushing bytes, sending a command, receiving and discarding may
exchange with the port, whatever it answers.
-/

namespace ModemBench

/-- Offering what is left until it is taken, from `written` bytes on. -/
inductive Pushed (port : String) (total : Nat) :
    Nat → Bytes → List Exchange → Except LinkError Nat → Prop where
  | whole : Pushed port total written [] [] (.ok written)
  | some (more : left ≠ [])
      (rest : Pushed port total (written + (n + 1)) (left.drop (n + 1)) es r) :
      Pushed port total written left (⟨.write left, .ok (n + 1)⟩ :: es) r
  | stalled (more : left ≠ []) :
      Pushed port total written left [⟨.write left, .ok 0⟩]
        (.error (.writeStalled port written total))
  | failed (more : left ≠ []) (e : PortError) :
      Pushed port total written left [⟨.write left, .error e⟩] (.error (.writeFailed port e))

/-- Pushing always comes to an end. -/
theorem Line.push_course {line : Line} {total written : Nat} {left : Bytes} {es : List Exchange}
    {r : Option (Except LinkError Nat)} (h : Transcript (line.push total written left).run es r) :
    ∃ r', r = some r' ∧ Pushed line.port total written left es r' := by
  fun_induction Line.push line total written left generalizing es with
  | case1 written =>
    obtain ⟨rfl, rfl⟩ := Transcript.of_pure h
    exact ⟨_, rfl, .whole⟩
  | case2 written left more ih =>
    obtain ⟨answer, rest, rfl, hrest⟩ := Transcript.of_perform h
    match answer with
    | .error e =>
      obtain ⟨rfl, rfl⟩ := Transcript.of_throw hrest
      exact ⟨_, rfl, .failed more e⟩
    | .ok 0 =>
      obtain ⟨rfl, rfl⟩ := Transcript.of_throw hrest
      exact ⟨_, rfl, .stalled more⟩
    | .ok (n + 1) =>
      obtain ⟨r', rfl, hp⟩ := ih n hrest
      exact ⟨r', rfl, .some more hp⟩

namespace Pushed

variable {port : String} {total written : Nat} {left : Bytes} {es : List Exchange}

/-- Only writes happen, and none of them fails before the last. -/
theorem sound {n : Nat} (h : Pushed port total written left es (.ok n)) : Sound es := by
  generalize hr : Except.ok n = r at h
  induction h with
  | whole => exact .nil
  | some more rest ih => exact Sound.cons_iff.mpr ⟨rfl, ih hr⟩
  | stalled | failed => cases hr

/-- What was taken and what is left make up the whole as long as something is left. -/
theorem cut {cause : LinkError} (h : Pushed port total written left es (.error cause))
    (hleft : left ≠ [] → written + left.length = total) : Cut port written total es cause := by
  generalize hr : Except.error cause = r at h
  induction h with
  | whole => cases hr
  | @some left written n es r more rest ih =>
    have hs : Sound [⟨.write left, .ok (n + 1)⟩] := by simp [Exchange.fails]
    refine Cut.after hs (ih ?_ hr)
    intro hn
    have := List.length_pos_iff.mpr hn
    have := hleft more
    simp only [List.length_drop] at *
    omega
  | stalled more =>
    cases hr
    refine ⟨⟨[], _, rfl, .nil, rfl⟩, ?_⟩
    intro p w t he
    cases he
    have := List.length_pos_iff.mpr more
    have := hleft more
    omega
  | failed more e =>
    cases hr
    exact ⟨⟨[], _, rfl, .nil, rfl⟩, by intro p w t he; cases he⟩

theorem taken {n : Nat} (h : Pushed port total written left es (.ok n))
    (fair : FairPlay es) : es.flatMap Exchange.taken = left := by
  generalize hr : Except.ok n = r at h
  induction h with
  | whole => rfl
  | some more rest ih =>
    rw [List.flatMap_cons, ih (FairPlay.cons_iff.mp fair).2 hr]
    exact List.take_append_drop _ _
  | stalled | failed => cases hr

/-- Whatever happens, a prefix of what was left is taken. -/
theorem taken_begins {r : Except LinkError Nat} (h : Pushed port total written left es r)
    (fair : FairPlay es) : es.flatMap Exchange.taken <+: left := by
  induction h with
  | whole => exact List.prefix_rfl
  | @some left written n es r more rest ih =>
    rw [List.flatMap_cons]
    have hrest := ih (FairPlay.cons_iff.mp fair).2
    have := (List.prefix_append_right_inj (left.take (n + 1))).mpr hrest
    rwa [List.take_append_drop] at this
  | stalled | failed => exact List.nil_prefix

theorem given {r : Except LinkError Nat} (h : Pushed port total written left es r) :
    es.flatMap Exchange.given = [] := by
  induction h with
  | whole | stalled | failed => rfl
  | some more rest ih => rw [List.flatMap_cons, ih]; rfl

theorem sendings {r : Except LinkError Nat} (h : Pushed port total written left es r) :
    sendings es = [] := by
  induction h with
  | whole | stalled | failed => rfl
  | some more rest ih => exact ih

end Pushed

/-- Sending a command, up to where it went wrong if it did. -/
inductive Sent (line : Line) (c : Command) : List Exchange → Except LinkError Unit → Prop where
  | unwritten (pushed : Pushed line.port c.wire.length 0 c.wire es (.error cause)) :
      Sent line c (noted line.verbose (.wireOut c) ++ es) (.error cause)
  | unflushed (pushed : Pushed line.port c.wire.length 0 c.wire es (.ok n)) (e : PortError) :
      Sent line c (noted line.verbose (.wireOut c) ++ (es ++ [⟨.flush, .error e⟩]))
        (.error (.writeFailed line.port e))
  | whole (pushed : Pushed line.port c.wire.length 0 c.wire es (.ok n)) :
      Sent line c (noted line.verbose (.wireOut c) ++
        (es ++ [⟨.flush, .ok ()⟩, ⟨.note (.sent n), ()⟩])) (.ok ())

/-- A note that depends on the line's verbosity, and then the rest. -/
theorem Transcript.of_noted {b : Bool} {entry : Note} {f : Talk ε α} {es : List Exchange}
    {r : Option (Except ε α)}
    (h : Transcript (if b = true then do
        let _ ← (liftM (Dialogue.perform (.note entry)) : Talk ε Unit); f
      else f : Talk ε α).run es r) :
    ∃ rest, es = noted b entry ++ rest ∧ Transcript f.run rest r := by
  cases b with
  | false => exact ⟨es, rfl, h⟩
  | true =>
    obtain ⟨⟨⟩, rest, rfl, hrest⟩ := Transcript.of_perform h
    exact ⟨rest, rfl, hrest⟩

theorem Line.send_course {line : Line} {c : Command} {es : List Exchange}
    {r : Option (Except LinkError Unit)} (h : Transcript (line.send c).run es r) :
    ∃ r', r = some r' ∧ Sent line c es r' := by
  obtain ⟨rest, rfl, hrest⟩ := Transcript.of_noted h
  rcases Transcript.of_sure_step Line.push_course hrest with
    ⟨n, first, second, rfl, hpush, hflush⟩ | ⟨cause, hpush, rfl⟩
  · obtain ⟨answer, after, rfl, hafter⟩ := Transcript.of_perform hflush
    match answer with
    | .error e =>
      obtain ⟨rfl, rfl⟩ := Transcript.of_throw hafter
      exact ⟨_, rfl, .unflushed hpush e⟩
    | .ok () =>
      obtain ⟨⟨⟩, rfl, rfl⟩ := Transcript.of_perform_last hafter
      exact ⟨_, rfl, .whole hpush⟩
  · exact ⟨_, rfl, .unwritten hpush⟩

namespace Sent

variable {line : Line} {c : Command} {es : List Exchange}

theorem sound (h : Sent line c es (.ok ())) : Sound es := by
  cases h with
  | whole pushed => simp [pushed.sound, Exchange.fails]

theorem cut {cause : LinkError} (h : Sent line c es (.error cause)) :
    Cut line.port 0 c.wire.length es cause := by
  cases h with
  | unwritten pushed =>
    refine Cut.after (sound_noted _ _) ?_
    rw [amount_noted]
    exact pushed.cut (by intro _; omega)
  | unflushed pushed e =>
    refine Cut.after (sound_noted _ _) (Cut.after pushed.sound ⟨⟨[], _, rfl, .nil, rfl⟩, ?_⟩)
    intro p w t he
    cases he

theorem taken (h : Sent line c es (.ok ())) (fair : FairPlay es) :
    es.flatMap Exchange.taken = c.wire := by
  cases h with
  | whole pushed =>
    simp only [FairPlay.append_iff] at fair
    simpa [Exchange.taken] using pushed.taken fair.2.1

theorem taken_begins {r : Except LinkError Unit} (h : Sent line c es r)
    (fair : FairPlay es) : es.flatMap Exchange.taken <+: c.wire := by
  cases h with
  | unwritten pushed =>
    simpa using pushed.taken_begins (FairPlay.append_iff.mp fair).2
  | unflushed pushed | whole pushed =>
    simp only [FairPlay.append_iff] at fair
    simpa [Exchange.taken] using pushed.taken_begins fair.2.1

theorem given {r : Except LinkError Unit} (h : Sent line c es r) :
    es.flatMap Exchange.given = [] := by
  cases h with
  | unwritten pushed | unflushed pushed | whole pushed => simp [pushed.given, Exchange.given]

theorem sendings {r : Except LinkError Unit} (h : Sent line c es r) :
    sendings es = [] := by
  cases h with
  | unwritten pushed | unflushed pushed | whole pushed =>
    have hn : sendings (noted line.verbose (.wireOut c)) = [] := sendings_noted rfl
    simp [hn, pushed.sendings, Exchange.sending?]

end Sent

/-- One read. -/
inductive Received (line : Line) : List Exchange → Except LinkError Bytes → Prop where
  | chunk (chunk : Bytes) :
      Received line (⟨.read Line.chunkSize, .ok chunk⟩ ::
        noted (line.verbose && !chunk.isEmpty) (.wireIn chunk)) (.ok chunk)
  | silence (quiet : e.isReadTimeout = true) :
      Received line [⟨.read Line.chunkSize, .error e⟩] (.ok [])
  | failed (broken : e.isReadTimeout = false) :
      Received line [⟨.read Line.chunkSize, .error e⟩] (.error (.readFailed line.port e))

theorem Line.receive_course {line : Line} {es : List Exchange}
    {r : Option (Except LinkError Bytes)} (h : Transcript line.receive.run es r) :
    ∃ r', r = some r' ∧ Received line es r' := by
  obtain ⟨answer, rest, rfl, hrest⟩ := Transcript.of_perform h
  match answer with
  | .ok chunk =>
    obtain ⟨after, rfl, hafter⟩ := Transcript.of_noted hrest
    obtain ⟨rfl, rfl⟩ := Transcript.of_pure hafter
    rw [List.append_nil]
    exact ⟨_, rfl, .chunk chunk⟩
  | .error e =>
    cases he : e.isReadTimeout with
    | true =>
      simp only [he] at hrest
      obtain ⟨rfl, rfl⟩ := Transcript.of_pure hrest
      exact ⟨_, rfl, .silence he⟩
    | false =>
      simp only [he] at hrest
      obtain ⟨rfl, rfl⟩ := Transcript.of_throw hrest
      exact ⟨_, rfl, .failed he⟩

namespace Received

variable {line : Line} {es : List Exchange}

theorem sound {chunk : Bytes} (h : Received line es (.ok chunk)) : Sound es := by
  cases h with
  | chunk => simp [Exchange.fails]
  | silence quiet => simp [Exchange.fails, quiet]

theorem cut {cause : LinkError} (h : Received line es (.error cause)) (written total : Nat) :
    Cut line.port written total es cause := by
  cases h with
  | failed broken =>
    refine ⟨⟨[], _, rfl, .nil, by simp [Exchange.cause?, broken]⟩, ?_⟩
    intro p w t he
    cases he

theorem given {chunk : Bytes} (h : Received line es (.ok chunk)) :
    es.flatMap Exchange.given = chunk := by
  cases h with
  | chunk => simp [Exchange.given]
  | silence => rfl

/-- A read writes nothing and begins no transmission. -/
theorem idle {r : Except LinkError Bytes} (h : Received line es r) :
    es.flatMap Exchange.taken = [] ∧ sendings es = [] := by
  cases h with
  | chunk chunk =>
    have hn := @sendings_noted (line.verbose && !chunk.isEmpty) (.wireIn chunk) rfl
    simp [hn, Exchange.taken, Exchange.sending?]
  | silence | failed => exact ⟨rfl, rfl⟩

end Received

/-- Dropping what is pending. -/
inductive Discarded (line : Line) : List Exchange → Except LinkError Unit → Prop where
  | cleared : Discarded line [⟨.clear, .ok ()⟩] (.ok ())
  | failed (e : PortError) :
      Discarded line [⟨.clear, .error e⟩] (.error (.readFailed line.port e))

theorem Line.discard_course {line : Line} {es : List Exchange}
    {r : Option (Except LinkError Unit)} (h : Transcript line.discard.run es r) :
    ∃ r', r = some r' ∧ Discarded line es r' := by
  obtain ⟨answer, rest, rfl, hrest⟩ := Transcript.of_perform h
  match answer with
  | .error e =>
    obtain ⟨rfl, rfl⟩ := Transcript.of_throw hrest
    exact ⟨_, rfl, .failed e⟩
  | .ok () =>
    obtain ⟨rfl, rfl⟩ := Transcript.of_pure hrest
    exact ⟨_, rfl, .cleared⟩

end ModemBench
