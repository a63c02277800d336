import ModemBench.Proofs.Loading
/-!
The environment laid over settings. Eight of them have a variable each, and are heard in a fixed
order. Where all the variables can be read, every one that is set has its value in the settings;
where one cannot, it is named, and just those before it have.
-/

namespace ModemBench

namespace Override

/-- The settings that a variable of the environment may replace. -/
inductive Target where
  | port
  | baud
  | readTimeout
  | responseTimeout
  | interCommandDelay
  | onTimeout
  | verbose
  | level
deriving Repr, DecidableEq

namespace Target

/-- Every one of them, in the order in which they are heard. -/
def all : List Target :=
  [port, baud, readTimeout, responseTimeout, interCommandDelay, onTimeout, verbose, level]

/-- Those whose variable may say nothing. -/
def parsed : List Target :=
  [baud, readTimeout, responseTimeout, interCommandDelay, onTimeout]

/-- The name of the variable. -/
def name : Target → String
  | port => "AT_TEST_SERIAL_PORT"
  | baud => "AT_TEST_SERIAL_BAUD"
  | readTimeout => "AT_TEST_SERIAL_READ_TIMEOUT_MS"
  | responseTimeout => "AT_TEST_SEQUENCER_RESPONSE_TIMEOUT_MS"
  | interCommandDelay => "AT_TEST_SEQUENCER_INTER_COMMAND_DELAY_MS"
  | onTimeout => "AT_TEST_SEQUENCER_ON_TIMEOUT"
  | verbose => "AT_TEST_LOGGING_VERBOSE"
  | level => "AT_TEST_LOGGING_LEVEL"

abbrev Value : Target → Type
  | port | level => String
  | baud => UInt32
  | readTimeout | responseTimeout | interCommandDelay => UInt64
  | onTimeout => TimeoutPolicy
  | verbose => Bool

/-- What the text of the variable says, or why it says nothing. -/
def read : (k : Target) → String → Except String k.Value
  | port, text => .ok text
  | baud, text => (number max32 "Invalid baud rate" text).map UInt32.ofNat
  | readTimeout, text => (number max64 "Invalid timeout" text).map UInt64.ofNat
  | responseTimeout, text => (number max64 "Invalid timeout" text).map UInt64.ofNat
  | interCommandDelay, text => (number max64 "Invalid delay" text).map UInt64.ofNat
  | onTimeout, text => TimeoutPolicy.ofText? text
  | verbose, text => .ok (isYes text)
  | level, text => .ok text

def get : (k : Target) → Settings → k.Value
  | port, s => s.serial.port
  | baud, s => s.serial.baud
  | readTimeout, s => s.serial.readTimeout
  | responseTimeout, s => s.pacing.responseTimeout
  | interCommandDelay, s => s.pacing.interCommandDelay
  | onTimeout, s => s.pacing.onTimeout
  | verbose, s => s.logging.verbose
  | level, s => s.logging.level

def set : (k : Target) → k.Value → Settings → Settings
  | port, v, s => { s with serial.port := v }
  | baud, v, s => { s with serial.baud := v }
  | readTimeout, v, s => { s with serial.readTimeout := v }
  | responseTimeout, v, s => { s with pacing.responseTimeout := v }
  | interCommandDelay, v, s => { s with pacing.interCommandDelay := v }
  | onTimeout, v, s => { s with pacing.onTimeout := v }
  | verbose, v, s => { s with logging.verbose := v }
  | level, v, s => { s with logging.level := v }

variable {k : Target} {s s' : Settings}

theorem mem_all (k : Target) : k ∈ all := by
  cases k <;> decide

theorem all_nodup : all.Nodup := by decide

@[simp] theorem get_set (k : Target) (v : k.Value) (s : Settings) : k.get (k.set v s) = v := by
  cases k <;> rfl

theorem get_set_of_ne {j : Target} (h : j ≠ k) (v : k.Value) (s : Settings) :
    j.get (k.set v s) = j.get s := by
  cases j <;> cases k <;> first | rfl | exact absurd rfl h

theorem over_set (v : k.Value) (h : s.Over s') : s.Over (k.set v s') := by
  rw [Settings.over_iff] at h ⊢
  cases k <;> exact h

/-- Only what is parsed can fail to be read. -/
theorem mem_parsed {text message : String} (h : k.read text = .error message) : k ∈ parsed := by
  cases k with
  | port | verbose | level => cases h
  | baud | readTimeout | responseTimeout | interCommandDelay | onTimeout => decide

/-- The variable is not set or says something. -/
def Readable (lookup : String → Option String) (k : Target) : Prop :=
  ∀ text, lookup k.name = some text → ∃ v, k.read text = .ok v

theorem Readable.of_unset {lookup : String → Option String} (unset : lookup k.name = none) :
    k.Readable lookup := by
  intro text hset
  rw [unset] at hset
  cases hset

theorem Readable.of_set {lookup : String → Option String} {text : String} {v : k.Value}
    (set : lookup k.name = some text) (read : k.read text = .ok v) : k.Readable lookup := by
  intro text' hset
  obtain rfl : text = text' := Option.some.inj (set.symm.trans hset)
  exact ⟨v, read⟩

/-- The override of a target. -/
def toOverride (k : Target) : Override where
  name := k.name
  apply text s := (k.read text).map (k.set · s)

/-- The overrides are those of the targets, in their order. -/
theorem all_toOverride : Override.all = all.map toOverride := by
  have hmap {α β γ : Type} (x : Except String α) (f : α → β) (g : β → γ) :
      (x.map f).map g = x.map fun a => g (f a) := by
    cases x <;> rfl
  simp only [Override.all, all, List.map_cons, List.map_nil, toOverride, read, hmap]
  rfl

end Target

end Override

namespace Settings

open Override (Target)

variable {lookup : String → Option String} {heard : List Target} {s s' : Settings} {k : Target}

/-- `s` becomes `s'` where the variables of these targets have their say: those that are set give
their values, and nothing else is changed. -/
structure Heard (lookup : String → Option String) (heard : List Target) (s s' : Settings) :
    Prop where
  value : ∀ k ∈ heard, ∀ text, lookup k.name = some text → k.read text = .ok (k.get s')
  kept : ∀ k, k ∉ heard ∨ lookup k.name = none → k.get s' = k.get s
  rest : s.Over s'

theorem Heard.nil (lookup : String → Option String) (s : Settings) : Heard lookup [] s s where
  value _ hk := absurd hk List.not_mem_nil
  kept _ _ := rfl
  rest := rfl

/-- A variable that is not set says nothing. -/
theorem Heard.unset (h : Heard lookup heard s s') (unset : lookup k.name = none) :
    Heard lookup (heard ++ [k]) s s' where
  value j hj text hset := by
    rcases List.mem_append.mp hj with hj | hj
    · exact h.value j hj text hset
    · rw [List.mem_singleton.mp hj, unset] at hset
      cases hset
  kept j hj := h.kept j (hj.imp_left fun hnot hmem => hnot (List.mem_append_left _ hmem))
  rest := h.rest

/-- The next variable that is set changes its own target and none of those before. -/
theorem Heard.set {text : String} {v : k.Value} (h : Heard lookup heard s s') (new : k ∉ heard)
    (set : lookup k.name = some text) (read : k.read text = .ok v) :
    Heard lookup (heard ++ [k]) s (k.set v s') where
  value j hj text' hset := by
    rcases List.mem_append.mp hj with hj | hj
    · have hne : j ≠ k := fun he => new (he ▸ hj)
      rw [Target.get_set_of_ne hne]
      exact h.value j hj text' hset
    · obtain rfl := List.mem_singleton.mp hj
      obtain rfl : text = text' := Option.some.inj (set.symm.trans hset)
      rw [Target.get_set]
      exact read
  kept j hj := by
    have hne : j ≠ k := by
      rintro rfl
      rcases hj with hj | hj
      · exact hj (List.mem_append_right _ List.mem_cons_self)
      · rw [set] at hj
        cases hj
    rw [Target.get_set_of_ne hne]
    exact h.kept j (hj.imp_left fun hnot hmem => hnot (List.mem_append_left _ hmem))
  rest := Target.over_set v h.rest

theorem eq_of_over (h : s.Over s') (same : ∀ k : Target, k.get s' = k.get s) : s' = s := by
  have hport := same .port
  have hbaud := same .baud
  have hread := same .readTimeout
  have hresponse := same .responseTimeout
  have hdelay := same .interCommandDelay
  have hpolicy := same .onTimeout
  have hverbose := same .verbose
  have hlevel := same .level
  dsimp only [Target.get] at hport hbaud hread hresponse hdelay hpolicy hverbose hlevel
  have hpacing : s'.pacing = s.pacing := calc
    s'.pacing = ⟨s'.pacing.responseTimeout, s'.pacing.interCommandDelay, s'.pacing.onTimeout⟩ :=
      rfl
    _ = s.pacing := by rw [hresponse, hdelay, hpolicy]
  calc
    s' = s.replaced s' := h.symm
    _ = s.replaced s := by
      unfold replaced
      rw [hport, hbaud, hread, hpacing, hverbose, hlevel]
    _ = s := rfl

/-- Once every variable has been heard, none has anything new to say. -/
theorem Heard.idempotent {s'' : Settings} (h : Heard lookup Target.all s s')
    (again : Heard lookup Target.all s' s'') : s'' = s' := by
  apply eq_of_over again.rest
  intro k
  cases hset : lookup k.name with
  | none => exact again.kept k (.inr hset)
  | some text =>
    have hfirst := h.value k k.mem_all text hset
    have hsecond := again.value k k.mem_all text hset
    exact Except.ok.inj (hsecond.symm.trans hfirst)

/-- What settings become in an environment. Every variable is heard, or those before the first that
cannot be read. -/
inductive Overlaid (lookup : String → Option String) (s : Settings) :
    Settings × Option SettingsError → Prop where
  | complete {s' : Settings} (readable : ∀ k ∈ Target.parsed, k.Readable lookup)
      (heard : Heard lookup Target.all s s') : Overlaid lookup s (s', none)
  | stopped {s' : Settings} {before behind : List Target} {k : Target}
      (order : Target.all = before ++ k :: behind)
      (readable : ∀ j ∈ before, j.Readable lookup) (member : k ∈ Target.parsed)
      (set : lookup k.name = some text) (unreadable : k.read text = .error message)
      (heard : Heard lookup before s s') :
      Overlaid lookup s (s', some (.badVariable k.name message))

/-- From the targets already heard, the overlay goes on to the others one by one. -/
theorem Heard.overlaid {left : List Target} (order : Target.all = heard ++ left)
    (readable : ∀ j ∈ heard, j.Readable lookup) (h : Heard lookup heard s s') :
    Overlaid lookup s (Override.overlay lookup (left.map Target.toOverride) s') := by
  induction left generalizing heard s' with
  | nil =>
    rw [List.append_nil] at order
    exact .complete (fun k _ => readable k (order ▸ k.mem_all)) (order ▸ h)
  | cons k left ih =>
    have horder : Target.all = (heard ++ [k]) ++ left := by
      rw [order, List.append_assoc, List.singleton_append]
    have hreadable (hk : k.Readable lookup) : ∀ j ∈ heard ++ [k], j.Readable lookup := by
      intro j hj
      rcases List.mem_append.mp hj with hj | hj
      · exact readable j hj
      · exact List.mem_singleton.mp hj ▸ hk
    rw [List.map_cons, Override.overlay]
    dsimp only [Target.toOverride]
    cases hset : lookup k.name with
    | none => exact ih horder (hreadable (.of_unset hset)) (h.unset hset)
    | some text =>
      dsimp only
      cases hread : k.read text with
      | error message => exact .stopped order readable (Target.mem_parsed hread) hset hread h
      | ok v =>
        have hnew : k ∉ heard := by
          have hnodup := order ▸ Target.all_nodup
          exact fun hmem => List.disjoint_of_nodup_append hnodup hmem List.mem_cons_self
        exact ih horder (hreadable (.of_set hset hread)) (h.set hnew hset hread)

theorem overlaid (s : Settings) (lookup : String → Option String) :
    Overlaid lookup s (s.overlay lookup) := by
  have hnone : ∀ j ∈ ([] : List Target), j.Readable lookup := fun j hj =>
    absurd hj List.not_mem_nil
  rw [overlay, Target.all_toOverride]
  exact (Heard.nil lookup s).overlaid rfl hnone

/-- The environment laid over settings gives each variable that is set its say up to the first that
cannot be read, and is then at an end. Settings that it was laid over without an error it does not
change a second time. -/
theorem overlay_in_order (s : Settings) (lookup : String → Option String) :
    Overlaid lookup s (s.overlay lookup) ∧
      ∀ s', s.overlay lookup = (s', none) → s'.overlay lookup = (s', none) := by
  refine ⟨s.overlaid lookup, ?_⟩
  intro s' hs
  have hfirst := s.overlaid lookup
  have hsecond := s'.overlaid lookup
  rw [hs] at hfirst
  cases hfirst with
  | complete readable heard =>
    generalize s'.overlay lookup = result at hsecond ⊢
    cases hsecond with
    | complete _ again => rw [heard.idempotent again]
    | stopped order _ member set unreadable =>
      obtain ⟨v, hv⟩ := readable _ member _ set
      rw [unreadable] at hv
      cases hv

/-- The port and the level are replaced once and for all. -/
theorem repeated_overlay_in_order :
    let lookup name := [("AT_TEST_LOGGING_LEVEL", "debug"),
      ("AT_TEST_SERIAL_PORT", "/dev/ttyS0")].lookup name
    let s : Settings := { serial.port := "/dev/ttyS0", logging.level := "debug" }
    overlay {} lookup = (s, none) ∧ Overlaid lookup {} (s, none) ∧
      s.overlay lookup = (s, none) := by
  intro lookup s
  have hs : overlay {} lookup = (s, none) := by decide
  obtain ⟨hoverlaid, hagain⟩ := overlay_in_order {} lookup
  exact ⟨hs, hs ▸ hoverlaid, hagain s hs⟩

/-- The name of the port is replaced before the speed is found unreadable, and the level is not. -/
example :
    let lookup name := [("AT_TEST_LOGGING_LEVEL", "debug"), ("AT_TEST_SERIAL_BAUD", "fast"),
      ("AT_TEST_SERIAL_PORT", "/dev/ttyS0")].lookup name
    overlay {} lookup = ({ serial.port := "/dev/ttyS0" },
      some (.badVariable "AT_TEST_SERIAL_BAUD" "Invalid baud rate: \"fast\"")) := by
  decide

end Settings

end ModemBench
