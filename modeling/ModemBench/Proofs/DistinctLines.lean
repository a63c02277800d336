import Mathlib
import ModemBench.Proofs.Interruption
import ModemBench.Proofs.ModemTraffic
/-!
The lines that a run completes on the wire, each counted once. They are the first of its commands:
as many as were settled, and the one under way unless its first transmission was cut off.
-/

namespace ModemBench

section Pieces

variable {α : Type} [DecidableEq α] {stop : α} {xs rest : List α}

/-- The pieces that end with a stop, which is part of them. What is behind the last stop is no
piece. -/
def pieces (stop : α) : List α → List (List α)
  | [] => []
  | x :: rest =>
    if x = stop then [x] :: pieces stop rest
    else match pieces stop rest with
      | [] => []
      | piece :: others => (x :: piece) :: others

theorem pieces_append_stop (h : stop ∉ xs) :
    pieces stop (xs ++ stop :: rest) = (xs ++ [stop]) :: pieces stop rest := by
  induction xs with
  | nil => simp [pieces]
  | cons x xs ih =>
    obtain ⟨hx, hxs⟩ := not_or.mp (mt List.mem_cons.mpr h)
    rw [List.cons_append, pieces, if_neg (Ne.symm hx), ih hxs]
    rfl

theorem pieces_eq_nil (h : stop ∉ xs) : pieces stop xs = [] := by
  induction xs with
  | nil => rfl
  | cons x xs ih =>
    obtain ⟨hx, hxs⟩ := not_or.mp (mt List.mem_cons.mpr h)
    rw [pieces, if_neg (Ne.symm hx), ih hxs]

/-- What is repeated at once counts once. -/
theorem destutter_replicate_append {n : Nat} {x : α} (some : n ≠ 0)
    (fresh : x ∉ xs.destutter (· ≠ ·)) :
    (List.replicate n x ++ xs).destutter (· ≠ ·) = x :: xs.destutter (· ≠ ·) := by
  obtain ⟨n, rfl⟩ := Nat.exists_eq_succ_of_ne_zero some
  rw [List.replicate_succ, List.cons_append, List.destutter_cons']
  induction n with
  | zero =>
    cases xs with
    | nil => rfl
    | cons y ys =>
      have hy : x ≠ y := by
        rintro rfl
        exact fresh (List.mem_destutter' _ _ _)
      rw [List.replicate_zero, List.nil_append, List.destutter'_cons_pos _ hy]
      rfl
  | succ n ih =>
    rw [List.replicate_succ, List.cons_append, List.destutter'_cons_neg _ (by simp)]
    exact ih (Nat.succ_ne_zero n)

end Pieces

section Lines

variable {c : Command}

theorem pieces_wire_append (plain : '\n' ∉ c.line.toList) (rest : Bytes) :
    pieces 0x0A (c.wire ++ rest) = c.wire :: pieces 0x0A rest := by
  obtain ⟨body, hwire, hbody⟩ := c.wire_ends plain
  rw [hwire, List.append_assoc]
  exact pieces_append_stop hbody

theorem pieces_resent (plain : '\n' ∉ c.line.toList) (n : Nat) (rest : Bytes) :
    pieces 0x0A ((List.replicate n c.wire).flatten ++ rest) =
      List.replicate n c.wire ++ pieces 0x0A rest := by
  induction n with
  | zero => rfl
  | succ n ih =>
    rw [List.replicate_succ, List.flatten_cons, List.append_assoc, pieces_wire_append plain, ih]
    rfl

/-- A line that is not whole is not ended. -/
theorem not_mem_of_cut {bytes : Bytes} (plain : '\n' ∉ c.line.toList) (begins : bytes <+: c.wire)
    (short : bytes ≠ c.wire) : 0x0A ∉ bytes := by
  obtain ⟨body, hwire, hbody⟩ := c.wire_ends plain
  rw [hwire] at begins short
  rcases List.prefix_concat_iff.mp begins with rfl | hinside
  · exact absurd rfl short
  · exact fun hmem => hbody (hinside.subset hmem)

theorem wire_injective : Function.Injective Command.wire := by
  intro c d h
  have hlines : c.line ++ "\r\n" = d.line ++ "\r\n" := by
    rw [← Command.decode_wire, ← Command.decode_wire, h]
  have hsame : c.line.toList = d.line.toList := by
    simpa using congrArg String.toList hlines
  cases c
  cases d
  exact congrArg _ (String.toList_inj.mp hsame)

end Lines

namespace Exchange

/-- Whether this is a write that fails. -/
def balks : Exchange → Bool
  | ⟨.write _, .ok n⟩ => n == 0
  | ⟨.write _, .error _⟩ => true
  | _ => false

theorem fails_of_balks {e : Exchange} (h : e.balks = true) : e.fails = true := by
  rcases e with ⟨q, answer⟩
  cases q <;> first | cases h | skip
  cases answer <;> exact h

end Exchange

theorem Sound.balks {es : List Exchange} (h : Sound es) : es.any Exchange.balks = false := by
  refine List.any_eq_false.mpr fun e he hbalks => ?_
  have := h e he
  rw [Exchange.fails_of_balks hbalks] at this
  cases this

/-- The last transmission begun was the first of its command, and was cut off. -/
structure FirstCut (es : List Exchange) : Prop where
  balks : es.any Exchange.balks = true
  first : ∃ c, (sendings es).getLast? = some (c, 1)

theorem firstCut_congr {es es' : List Exchange}
    (balks : es.any Exchange.balks = es'.any Exchange.balks) (same : sendings es = sendings es') :
    FirstCut es ↔ FirstCut es' :=
  ⟨fun ⟨h₁, h₂⟩ => ⟨balks ▸ h₁, same ▸ h₂⟩, fun ⟨h₁, h₂⟩ => ⟨balks ▸ h₁, same ▸ h₂⟩⟩

theorem firstCut_iff {es : List Exchange} {c : Command} {number : Nat}
    (last : (sendings es).getLast? = some (c, number)) :
    FirstCut es ↔ es.any Exchange.balks = true ∧ number = 1 := by
  refine ⟨fun ⟨hbalks, d, hd⟩ => ⟨hbalks, ?_⟩, fun ⟨hbalks, hone⟩ => ⟨hbalks, c, hone ▸ last⟩⟩
  cases last.symm.trans hd
  rfl

theorem firstCut_behind {before es : List Exchange} (quiet : Quiet before) :
    FirstCut (before ++ es) ↔ FirstCut es := by
  refine firstCut_congr ?_ ?_
  · rw [List.any_append, quiet.sound.balks, Bool.false_or]
  · rw [sendings_append, quiet.sendings, List.nil_append]

/-- Only what has begun last counts. -/
theorem firstCut_append {before es : List Exchange} (hs : Sound before)
    (h : es = [] ∨ sendings es ≠ []) : FirstCut (before ++ es) ↔ FirstCut es := by
  rcases h with rfl | h
  · refine ⟨fun hcut => ?_, fun hcut => nomatch hcut.balks⟩
    have := hcut.balks
    rw [List.append_nil, hs.balks] at this
    cases this
  · have hlast : (sendings (before ++ es)).getLast? = (sendings es).getLast? := by
      rw [sendings_append, List.getLast?_append_of_ne_nil _ h]
    have hbalks : (before ++ es).any Exchange.balks = es.any Exchange.balks := by
      rw [List.any_append, hs.balks, Bool.false_or]
    exact ⟨fun ⟨h₁, h₂⟩ => ⟨hbalks ▸ h₁, hlast ▸ h₂⟩, fun ⟨h₁, h₂⟩ => ⟨hbalks ▸ h₁, hlast ▸ h₂⟩⟩

/-- A beginning of the bytes was taken, and all of them unless a write failed. -/
structure Written (bytes : Bytes) (es : List Exchange) : Prop where
  begins : es.flatMap Exchange.taken <+: bytes
  whole : es.flatMap Exchange.taken = bytes ↔ es.any Exchange.balks = false

theorem Written.congr {bytes : Bytes} {es es' : List Exchange} (h : Written bytes es)
    (taken : es'.flatMap Exchange.taken = es.flatMap Exchange.taken)
    (balks : es'.any Exchange.balks = es.any Exchange.balks) : Written bytes es' :=
  ⟨taken ▸ h.begins, by rw [taken, balks, h.whole]⟩

theorem Pushed.written {port : String} {total written : Nat} {left : Bytes} {es : List Exchange}
    {r : Except LinkError Nat} (h : Pushed port total written left es r) : Written left es := by
  induction h with
  | whole => exact ⟨List.prefix_rfl, iff_of_true rfl rfl⟩
  | @some left written n es r more rest ih =>
    obtain ⟨hbegins, hwhole⟩ := ih
    have hleft := List.take_append_drop (n + 1) left
    have htaken : (⟨.write left, .ok (n + 1)⟩ :: es : List Exchange).flatMap Exchange.taken =
        left.take (n + 1) ++ es.flatMap Exchange.taken := rfl
    have hbalks : (⟨.write left, .ok (n + 1)⟩ :: es : List Exchange).any Exchange.balks =
        es.any Exchange.balks := rfl
    rw [← List.prefix_append_right_inj (left.take (n + 1)), hleft] at hbegins
    rw [← List.append_right_inj (left.take (n + 1)), hleft] at hwhole
    exact ⟨htaken ▸ hbegins, by rw [htaken, hbalks, hwhole]⟩
  | stalled more | failed more =>
    exact ⟨List.nil_prefix, iff_of_false (Ne.symm more) nofun⟩

theorem Sent.written {line : Line} {c : Command} {es : List Exchange} {r : Except LinkError Unit}
    (h : Sent line c es r) : Written c.wire es := by
  have hnoted : (noted line.verbose (.wireOut c)).any Exchange.balks = false :=
    (sound_noted _ _).balks
  cases h with
  | unwritten pushed | unflushed pushed e | whole pushed =>
    refine pushed.written.congr ?_ ?_
    · simp [Exchange.taken]
    · simp [-List.any_eq_false, hnoted, Exchange.balks]

namespace Sequence

variable {line : Line} {options : RunOptions} {c : Command} {es : List Exchange}

/-- Whatever ends a wait, it is no write. -/
theorem Gathered.balks {deadline : Option Nat} {received : Bytes}
    {r : Option (Except LinkError (Ending × Bytes))} (h : Gathered line deadline received es r) :
    es.any Exchange.balks = false := by
  induction h with
  | impatient => rfl
  | failed read => cases read; rfl
  | settled read token => exact read.sound.balks
  | late read unsettled bound past => simp [read.sound.balks, Exchange.balks]
  | again read unsettled early rest ih =>
    simp [-List.any_eq_false, read.sound.balks, early.quiet.sound.balks, ih]

theorem Attempted.written {number : Nat} {r : Option (Except LinkError (Ending × Bytes))}
    (h : Attempted line options c number es r) : Written c.wire es := by
  cases h with
  | unsent send => exact send.written.congr rfl rfl
  | beyond send far =>
    refine send.written.congr ?_ ?_
    · simp [far.quiet.taken, Exchange.taken]
    · simp [-List.any_eq_false, far.quiet.sound.balks, Exchange.balks]
  | sent send set wait =>
    refine send.written.congr ?_ ?_
    · simp [set.quiet.taken, wait.idle, Exchange.taken]
    · simp [-List.any_eq_false, set.quiet.sound.balks, wait.balks, Exchange.balks]

theorem Attempted.begins {number : Nat} {r : Option (Except LinkError (Ending × Bytes))}
    (h : Attempted line options c number es r) : sendings es = [(c, number)] := by
  obtain ⟨rest, rfl, hrest⟩ := h.transmission
  rw [sendings_cons, hrest]
  rfl

/-- A transmission puts its line on the wire whole, or a write fails and the line is not ended. -/
theorem Attempted.whole_or_cut {number : Nat} {r : Option (Except LinkError (Ending × Bytes))}
    (h : Attempted line options c number es r) (plain : '\n' ∉ c.line.toList) :
    es.any Exchange.balks = false ∧ es.flatMap Exchange.taken = c.wire ∨
      es.any Exchange.balks = true ∧ 0x0A ∉ es.flatMap Exchange.taken := by
  obtain ⟨hbegins, hwhole⟩ := h.written
  cases hbalks : es.any Exchange.balks with
  | false => exact .inl ⟨rfl, hwhole.mpr hbalks⟩
  | true =>
    refine .inr ⟨rfl, not_mem_of_cut plain hbegins fun hsame => ?_⟩
    cases hbalks.symm.trans (hwhole.mp hsame)

/-- A command on the wire: its line stands there as often as it was sent, but for a transmission
that was cut off, and not at all only if that was the first. -/
structure OnWire (c : Command) (es : List Exchange) : Prop where
  begun : sendings es ≠ []
  lines : ∃ n rest, es.flatMap Exchange.taken = (List.replicate n c.wire).flatten ++ rest ∧
    0x0A ∉ rest ∧ (n = 0 ↔ FirstCut es) ∧ (es.any Exchange.balks = false → rest = [])

theorem Attempted.onWire {r : Option (Except LinkError (Ending × Bytes))}
    (first : Attempted line options c 1 es r) (plain : '\n' ∉ c.line.toList) : OnWire c es := by
  have hcut : FirstCut es ↔ es.any Exchange.balks = true ∧ 1 = 1 :=
    firstCut_iff (c := c) (by rw [first.begins]; rfl)
  refine ⟨by simp [first.begins], ?_⟩
  rcases first.whole_or_cut plain with ⟨hbalks, hwhole⟩ | ⟨hbalks, hstop⟩
  · exact ⟨1, [], by simpa using hwhole, List.not_mem_nil, by simp [hcut, hbalks], fun _ => rfl⟩
  · exact ⟨0, _, rfl, hstop, by simp [hcut, hbalks], by simp [hbalks]⟩

theorem Attempted.onWire_again {es' : List Exchange} {lost : Bytes}
    {r : Option (Except LinkError (Ending × Bytes))}
    (first : Attempted line options c 1 es (some (.ok (.timedOut, lost))))
    (second : Attempted line options c 2 es' r) (plain : '\n' ∉ c.line.toList) :
    OnWire c (es ++ (resending c ++ es')) := by
  have hsendings : sendings (es ++ (resending c ++ es')) = [(c, 1), (c, 2)] := by
    simp [first.begins, second.begins, resending, Exchange.sending?]
  have hsound := (first.sound (by simp)).balks
  have htaken : (es ++ (resending c ++ es')).flatMap Exchange.taken =
      c.wire ++ es'.flatMap Exchange.taken := by
    rw [List.flatMap_append, List.flatMap_append, first.written.whole.mpr hsound]
    rfl
  have hbalks : (es ++ (resending c ++ es')).any Exchange.balks = es'.any Exchange.balks := by
    rw [List.any_append, List.any_append, hsound]
    rfl
  have hcut : ¬ FirstCut (es ++ (resending c ++ es')) := by
    have hlast : (sendings (es ++ (resending c ++ es'))).getLast? = some (c, 2) := by
      rw [hsendings]
      rfl
    simp [firstCut_iff hlast]
  refine ⟨by simp [hsendings], ?_⟩
  rw [htaken, hbalks]
  rcases second.whole_or_cut plain with ⟨hbalks, hwhole⟩ | ⟨hbalks, hstop⟩
  · exact ⟨2, [], by simp [hwhole], List.not_mem_nil, by simp [hcut], fun _ => rfl⟩
  · exact ⟨1, _, by simp, hstop, by simp [hcut], by simp [hbalks]⟩

theorem OnWire.append (h : OnWire c es) {rest : List Exchange}
    (taken : rest.flatMap Exchange.taken = []) (balks : rest.any Exchange.balks = false)
    (unsent : sendings rest = []) : OnWire c (es ++ rest) := by
  obtain ⟨begun, n, part, hlines, hpart, hcut, hrest⟩ := h
  have hsendings : sendings (es ++ rest) = sendings es := by
    rw [sendings_append, unsent, List.append_nil]
  have hbalks : (es ++ rest).any Exchange.balks = es.any Exchange.balks := by
    rw [List.any_append, balks, Bool.or_false]
  refine ⟨by rwa [hsendings], n, part, ?_, hpart,
    hcut.trans (firstCut_congr hbalks.symm hsendings.symm), by rwa [hbalks]⟩
  rw [List.flatMap_append, taken, List.append_nil, hlines]

theorem OnWire.behind (h : OnWire c es) {before : List Exchange} (quiet : Quiet before) :
    OnWire c (before ++ es) := by
  obtain ⟨begun, n, part, hlines, hpart, hcut, hrest⟩ := h
  refine ⟨by simpa [quiet.sendings] using begun, n, part, ?_, hpart,
    hcut.trans (firstCut_behind quiet).symm, ?_⟩
  · rwa [List.flatMap_append, quiet.taken, List.nil_append]
  · rwa [List.any_append, quiet.sound.balks, Bool.false_or]

theorem Settled.onWire {r : Option (Except LinkError (Nat × Ending × Bytes))}
    (h : Settled line options c es r) (plain : '\n' ∉ c.line.toList) : OnWire c es := by
  cases h with
  | once first | cut first | halted first => exact first.onWire plain
  | uncleared first policy e => exact (first.onWire plain).append rfl rfl rfl
  | twice first policy second | cutAgain first policy second | haltedAgain first policy second =>
    exact first.onWire_again second plain

theorem Executed.onWire {r : Option (Except LinkError Record)}
    (h : Executed line options c es r) (plain : '\n' ∉ c.line.toList) : OnWire c es := by
  cases h with
  | recorded start finish settled record =>
    exact ((settled.onWire plain).append rfl rfl rfl).behind (.clock start)
  | cut start settled | halted start settled => exact (settled.onWire plain).behind (.clock start)

/-- Behind a command without trouble, what comes next begins a line of its own. -/
theorem OnWire.pieces_append (h : OnWire c es) (sound : Sound es) (plain : '\n' ∉ c.line.toList)
    (rest : Bytes) :
    ∃ n ≠ 0, pieces 0x0A (es.flatMap Exchange.taken ++ rest) =
      List.replicate n c.wire ++ pieces 0x0A rest := by
  obtain ⟨-, n, part, hlines, -, hcut, hpart⟩ := h
  refine ⟨n, fun hn => ?_, ?_⟩
  · have := (hcut.mp hn).balks
    rw [sound.balks] at this
    cases this
  · rw [hlines, hpart sound.balks, List.append_nil, pieces_resent plain]

/-- The first `n` of the commands are on the wire whole, and no others. They are those with a
record, and the one that was broken off too, unless its first transmission was cut off. -/
structure Extent {α : Type} (size : α → Nat) (told : Nat) (commands : List Command)
    (es : List Exchange) (r : Option (Except Interruption α)) (n : Nat) : Prop where
  lines : (pieces 0x0A (es.flatMap Exchange.taken)).destutter (· ≠ ·) =
    (commands.take n).map Command.wire
  within : n ≤ commands.length
  reported : ∀ a, r = some (.ok a) → size a = told + n
  broken : ∀ i, r = some (.error i) → ∃ m < commands.length, i.position = told + m + 1 ∧
    (FirstCut es → n = m) ∧ (¬ FirstCut es → n = m + 1)

/-- A run that stops at its next command, whatever becomes of it. -/
theorem OnWire.extent {α : Type} {size : α → Nat} {told : Nat} {left : List Command}
    {r : Option (Except Interruption α)} (h : OnWire c es) (plain : '\n' ∉ c.line.toList)
    (reported : ∀ a, r = some (.ok a) → Sound es ∧ size a = told + 1)
    (broken : ∀ i, r = some (.error i) → i.position = told + 1) :
    ∃ n, Extent size told (c :: left) es r n := by
  obtain ⟨-, times, part, hlines, hpart, hcut, -⟩ := h
  have hpieces : pieces 0x0A (es.flatMap Exchange.taken) = List.replicate times c.wire ++ [] := by
    rw [hlines, pieces_resent plain, pieces_eq_nil hpart]
  by_cases first : FirstCut es
  · refine ⟨0, ?_, Nat.zero_le _, fun a ha => ?_, fun i hi => ?_⟩
    · rw [hpieces, hcut.mpr first]
      rfl
    · have := (reported a ha).1.balks
      rw [first.balks] at this
      cases this
    · exact ⟨0, by simp, broken i hi, fun _ => rfl, absurd first⟩
  · refine ⟨1, ?_, by simp, fun a ha => (reported a ha).2, fun i hi => ?_⟩
    · rw [hpieces, destutter_replicate_append (fun hn => first (hcut.mp hn)) (by simp)]
      rfl
    · exact ⟨0, by simp, broken i hi, fun h => absurd h first, fun _ => rfl⟩

theorem Advanced.begun {total : Nat} {records : List Record} {commands : List Command}
    {r : Option (Except Interruption (Status × List Record))}
    (h : Advanced line options total records commands es r)
    (plain : ∀ c ∈ commands, '\n' ∉ c.line.toList) : es = [] ∨ sendings es ≠ [] := by
  cases h with
  | finished => exact .inl rfl
  | success now =>
    have := now.onWire (plain _ List.mem_cons_self)
    exact .inr (by simp [this.begun])
  | failure now | timedOut now | cut now | halted now =>
    exact .inr (now.onWire (plain _ List.mem_cons_self)).begun

theorem Advanced.extent {total : Nat} {records : List Record} {commands : List Command}
    {r : Option (Except Interruption (Status × List Record))}
    (h : Advanced line options total records commands es r)
    (plain : ∀ c ∈ commands, '\n' ∉ c.line.toList) (distinct : commands.Nodup) :
    ∃ n, Extent (·.2.length) records.length commands es r n := by
  induction h with
  | finished => exact ⟨0, rfl, Nat.le_refl 0, by simp, nofun⟩
  | @success c es record records left es' r now good rest ih =>
    have hsound : Sound (es ++ pause options left) := by simp [now.sound]
    obtain ⟨hc, hleft⟩ := List.forall_mem_cons.mp plain
    obtain ⟨fresh, hdistinct⟩ := List.nodup_cons.mp distinct
    obtain ⟨n, hlines, hwithin, hreported, hbroken⟩ := ih hleft hdistinct
    have hcut : FirstCut (es ++ (pause options left ++ es')) ↔ FirstCut es' := by
      rw [← List.append_assoc]
      exact firstCut_append hsound (rest.begun hleft)
    refine ⟨n + 1, ?_, Nat.succ_le_succ hwithin, fun a ha => ?_, fun i hi => ?_⟩
    · have hpause : (pause options left).flatMap Exchange.taken = [] := by
        unfold pause
        split <;> rfl
      have hfresh : c.wire ∉ (left.take n).map Command.wire := by
        rw [List.mem_map_of_injective wire_injective]
        exact fun hmem => fresh (List.mem_of_mem_take hmem)
      obtain ⟨times, htimes, hpieces⟩ := (now.onWire hc).pieces_append
        (now.sound (by simp)) hc (es'.flatMap Exchange.taken)
      rw [List.flatMap_append, List.flatMap_append, hpause, List.nil_append, hpieces,
        destutter_replicate_append htimes (hlines ▸ hfresh), hlines]
      rfl
    · have := hreported a ha
      simp only [List.length_append, List.length_singleton] at this
      omega
    · obtain ⟨m, hm, hplace, hfirst, hwhole⟩ := hbroken i hi
      rw [List.length_append, List.length_singleton] at hplace
      refine ⟨m + 1, Nat.succ_lt_succ hm, by omega, fun h => ?_, fun h => ?_⟩
      · rw [hfirst (hcut.mp h)]
      · rw [hwhole (mt hcut.mpr h)]
  | failure now | timedOut now =>
    have hc := plain _ List.mem_cons_self
    refine (now.onWire hc).extent hc (fun a ha => ?_) nofun
    cases ha
    exact ⟨now.sound (by simp), by simp⟩
  | cut now =>
    have hc := plain _ List.mem_cons_self
    refine (now.onWire hc).extent hc nofun fun i hi => ?_
    cases hi
    rfl
  | halted now =>
    have hc := plain _ List.mem_cons_self
    exact (now.onWire hc).extent hc nofun nofun

/-- Whatever becomes of a run, the first of its commands are on the wire whole, and no others. -/
theorem Ran.extent {commands : List Command} {r : Option (Except Interruption Report)}
    (h : Ran line options commands es r) (plain : ∀ c ∈ commands, '\n' ∉ c.line.toList)
    (distinct : commands.Nodup) : ∃ n, Extent (·.records.length) 0 commands es r n := by
  cases h with
  | reported course report =>
    obtain ⟨n, hlines, hwithin, hreported, -⟩ := course.extent plain distinct
    refine ⟨n, by simpa [Exchange.taken] using hlines, hwithin, fun a ha => ?_, by simp⟩
    cases ha
    rw [report]
    exact hreported _ rfl
  | @cut es i course =>
    obtain ⟨n, hlines, hwithin, -, hbroken⟩ := course.extent plain distinct
    refine ⟨n, hlines, hwithin, by simp, fun i hi => ?_⟩
    cases hi
    obtain ⟨m, hm, hplace, hfirst, hwhole⟩ := hbroken _ rfl
    have hcut : FirstCut (⟨.note (.starting commands.length line.port), ()⟩ :: es) ↔ FirstCut es :=
      firstCut_congr rfl rfl
    exact ⟨m, hm, hplace, fun h => hfirst (hcut.mp h), fun h => hwhole (mt hcut.mpr h)⟩
  | halted course =>
    obtain ⟨n, hlines, hwithin, -, -⟩ := course.extent plain distinct
    exact ⟨n, hlines, hwithin, by simp, by simp⟩

end Sequence

end ModemBench
