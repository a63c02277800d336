import ModemBench.CommandLine.Program
/-!
Layers of settings: a file over the built-in values, the environment over the file, and the command
line over both. The command line has the last word only over settings that are sound without it,
for they are checked once below it and once more with it.
-/

namespace ModemBench

namespace Settings

theorem check_bind_eq_ok {α : Type} {s : Settings} {x : Except SettingsError α} {a : α} :
    (check s >>= fun _ => x) = .ok a ↔ s.flaw? = none ∧ x = .ok a := by
  unfold check
  cases s.flaw? with
  | none => exact ⟨fun h => ⟨rfl, h⟩, And.right⟩
  | some flaw => exact ⟨nofun, nofun⟩

theorem complete_eq {around : Surroundings} {base s : Settings}
    (h : base.overlay around.env = (s, none)) :
    complete around base = (check s).map fun _ => s := by
  unfold complete
  rw [h]

/-- The link has a name to open and a speed to open it with. -/
def Linked (s : Settings) : Prop := Text.isBlankText s.serial.port = false ∧ s.serial.baud ≠ 0

instance (s : Settings) : Decidable s.Linked := inferInstanceAs (Decidable (_ ∧ _))

theorem flaw?_eq_none {s : Settings} : s.flaw? = none ↔
    s.Linked ∧ s.serial.readTimeout ≠ 0 ∧ s.preparation.all namesProgram = true := by
  unfold flaw? Linked
  grind

/-- Sound links leave only flaws that have nothing to do with them. -/
theorem flaw?_congr {s s' : Settings} (linked : s.Linked) (linked' : s'.Linked)
    (timeout : s.serial.readTimeout = s'.serial.readTimeout)
    (steps : s.preparation = s'.preparation) : s.flaw? = s'.flaw? := by
  unfold flaw?
  rw [linked.1, linked'.1, if_neg linked.2, if_neg linked'.2, timeout, steps]

theorem loadFrom_eq {around : Surroundings} {path : String} {base s : Settings}
    (file : ofFile around path = .ok base) (environment : base.overlay around.env = (s, none)) :
    loadFrom around path = (check s).map fun _ => ⟨some path, s⟩ := by
  have hload : loadFrom around path =
      (ofFile around path).bind fun base => (complete around base).bind fun s =>
        .ok ⟨some path, s⟩ := rfl
  rw [hload, file, Except.bind, complete_eq environment]
  cases check s <;> rfl

end Settings

namespace CommandLine

/-- Settings as the command line overlays them. -/
def Arguments.over (a : Arguments) (s : Settings) : Settings :=
  { s with
    serial.port := a.port.getD s.serial.port
    serial.baud := (a.baud.map UInt32.ofNat).getD s.serial.baud
    logging.verbose := s.logging.verbose || a.verbose }

/-- The file of the settings, if there is one. -/
def Arguments.source? (a : Arguments) (around : Surroundings) : Option String :=
  a.config.or (Settings.locate? around)

/-- The layers below the command line: `base` is the file over the built-in values, if there is a
file, and `s` the environment over that. Everything could be read. -/
structure Beneath (a : Arguments) (around : Surroundings) (base s : Settings) : Prop where
  file : (a.source? around).elim (.ok {}) (Settings.ofFile around) = .ok base
  environment : base.overlay around.env = (s, none)

/-- What is loaded before the command line is heard. -/
def Arguments.load (a : Arguments) (around : Surroundings) :
    Except SettingsError Settings.Loaded :=
  match a.config with
  | some path => Settings.loadFrom around path
  | none => Settings.load around

theorem Beneath.load {a : Arguments} {around : Surroundings} {base s : Settings}
    (h : Beneath a around base s) :
    a.load around = (Settings.check s).map fun _ => ⟨a.source? around, s⟩ := by
  obtain ⟨hfile, henv⟩ := h
  unfold Arguments.source? at hfile ⊢
  unfold Arguments.load
  cases hconfig : a.config with
  | some path =>
    rw [hconfig, Option.some_or] at hfile
    exact Settings.loadFrom_eq hfile henv
  | none =>
    rw [hconfig, Option.none_or] at hfile
    rw [Option.none_or]
    unfold Settings.load
    cases hlocate : Settings.locate? around with
    | some path =>
      rw [hlocate] at hfile
      exact Settings.loadFrom_eq hfile henv
    | none =>
      rw [hlocate] at hfile
      cases hfile
      dsimp only
      rw [Settings.complete_eq henv]
      cases Settings.check s <;> rfl

/-- The settings are checked below the command line, and again with it. -/
theorem loadSettings_eq {a : Arguments} {around : Surroundings} {base s : Settings}
    (h : Beneath a around base s) :
    loadSettings a around = (do
      Settings.check s
      Settings.check (a.over s)
      pure (a.over s)) := by
  have hload : loadSettings a around = (do
      let loaded ← a.load around
      Settings.check (a.over loaded.settings)
      pure (a.over loaded.settings)) := by
    unfold loadSettings Arguments.load
    cases a.config <;> rfl
  rw [hload, h.load]
  cases Settings.check s <;> rfl

/-- The command line changes nothing but the link, as far as flaws go. -/
theorem Arguments.flaw?_over {a : Arguments} {s : Settings} (final : (a.over s).flaw? = none) :
    s.flaw? = none ↔ s.Linked := by
  have hrest := (Settings.flaw?_eq_none.mp final).2
  rw [Settings.flaw?_eq_none]
  exact and_iff_left hrest

/-- Whatever could be read below the command line: loading succeeds exactly if the settings are
sound with what the command line says and the link was sound without it, and gives those settings.
Where it is sound without it, what the command line replaces makes no difference. -/
theorem loadSettings_layered {a : Arguments} {around : Surroundings} {base s : Settings}
    (h : Beneath a around base s) :
    (∀ t, loadSettings a around = .ok t ↔
      t = a.over s ∧ (a.over s).flaw? = none ∧ s.Linked) ∧
    (∀ flaw, s.flaw? = some flaw →
      loadSettings a around = .error (.invalid flaw.key flaw.message)) ∧
    ∀ around' base' s', Beneath a around' base' s' → a.over s' = a.over s → s.Linked →
      s'.Linked → loadSettings a around' = loadSettings a around := by
  refine ⟨?_, ?_, ?_⟩
  · intro t
    rw [loadSettings_eq h, Settings.check_bind_eq_ok, Settings.check_bind_eq_ok]
    constructor
    · rintro ⟨hlow, hfinal, hok⟩
      cases hok
      exact ⟨rfl, hfinal, (Arguments.flaw?_over hfinal).mp hlow⟩
    · rintro ⟨rfl, hfinal, linked⟩
      exact ⟨(Arguments.flaw?_over hfinal).mpr linked, hfinal, rfl⟩
  · intro flaw hflaw
    rw [loadSettings_eq h, Settings.check, hflaw]
    rfl
  · intro around' base' s' h' hsame linked linked'
    have htimeout : s'.serial.readTimeout = s.serial.readTimeout :=
      congrArg (·.serial.readTimeout) hsame
    have hsteps : s'.preparation = s.preparation := congrArg (·.preparation) hsame
    have hflaw := Settings.flaw?_congr linked' linked htimeout hsteps
    have hcheck : Settings.check s' = Settings.check s := by
      unfold Settings.check
      rw [hflaw]
    rw [loadSettings_eq h, loadSettings_eq h', hsame, hcheck]

/-- The environment has a speed, and the command line another. -/
theorem faster_loadSettings_layered :
    let around : Surroundings := .ofTexts
      (fun name => if name = "AT_TEST_SERIAL_BAUD" then some "1200" else none)
      fun _ => .absent .missing
    let a : Arguments := { family := some 0, baud := some 9600 }
    let s : Settings := { serial.baud := 1200 }
    Beneath a around {} s ∧ loadSettings a around = .ok { serial.baud := 9600 } := by
  intro around a s
  have h : Beneath a around {} s := ⟨rfl, rfl⟩
  exact ⟨h, ((loadSettings_layered h).1 _).mpr ⟨rfl, by decide, by decide⟩⟩

/-- A speed of nothing in the environment keeps the settings from loading, although the command line
has another and the settings with it have no flaw. -/
theorem zero_beneath_refused :
    let around : Surroundings := .ofTexts
      (fun name => if name = "AT_TEST_SERIAL_BAUD" then some "0" else none)
      fun _ => .absent .missing
    let a : Arguments := { family := some 0, case? := some 12, baud := some 9600, dryRun := true }
    let s : Settings := { serial.baud := 0 }
    Beneath a around {} s ∧ (a.over s).flaw? = none ∧
      loadSettings a around = .error (.invalid "serial.baud" "must be non-zero") := by
  intro around a s
  exact ⟨⟨rfl, rfl⟩, by decide, rfl⟩

end CommandLine

end ModemBench
