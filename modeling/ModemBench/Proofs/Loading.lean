import Mathlib
import ModemBench.Proofs.Encoding
import ModemBench.Settings.Load
/-!
Loading settings. The file is the first that exists of the one asked for, the one at hand and the
one of the user; what it says is overlaid by the environment and checked, and the first of these
steps that fails says why there are no settings. Settings that are loaded have no flaw, and are
those of the file but for what a variable may replace.
-/

namespace ModemBench

theorem Text.ofBytes?_eq_some {bytes : Bytes} {text : String} :
    ofBytes? bytes = some text ↔ encode text = bytes := by
  unfold ofBytes?
  constructor
  · intro h
    dsimp only at h
    split at h
    · next he =>
      cases h
      exact he
    · cases h
  · rintro rfl
    simp only [decode_encode, ↓reduceIte]

@[simp] theorem Surroundings.ofTexts_env (texts : String → Option String) (look : String → Sight) :
    (ofTexts texts look).env = texts := by
  funext name
  change ((texts name).map Text.encode).bind Text.ofBytes? = texts name
  cases texts name with
  | none => rfl
  | some text =>
    rw [Option.map_some, Option.bind_some]
    exact Text.ofBytes?_eq_some.mpr rfl

/-- A folder is found at a path as well as a file is, whether the file can be read or not. -/
def Surroundings.Has (around : Surroundings) (path : String) : Prop :=
  around.look path = .folder ∨ (∃ bytes, around.look path = .file bytes) ∨
    ∃ e, around.look path = .closed e

theorem Surroundings.has_iff {around : Surroundings} {path : String} :
    around.Has path ↔ (around.look path).exists = true := by
  unfold Has
  cases around.look path with
  | absent e => simp [Sight.exists]
  | folder => exact ⟨fun _ => rfl, fun _ => .inl rfl⟩
  | file bytes => exact ⟨fun _ => rfl, fun _ => .inr (.inl ⟨bytes, rfl⟩)⟩
  | closed e => exact ⟨fun _ => rfl, fun _ => .inr (.inr ⟨e, rfl⟩)⟩

/-- A file is read as text. No path holds a character of code zero. -/
def Surroundings.Reads (around : Surroundings) (path text : String) : Prop :=
  '\x00' ∉ path.toList ∧ around.look path = .file (Text.encode text)

namespace Settings

/-- These settings, but with the values of `s` wherever a variable may replace them. -/
def replaced (base s : Settings) : Settings :=
  { base with
    serial.port := s.serial.port
    serial.baud := s.serial.baud
    serial.readTimeout := s.serial.readTimeout
    pacing.responseTimeout := s.pacing.responseTimeout
    pacing.interCommandDelay := s.pacing.interCommandDelay
    pacing.onTimeout := s.pacing.onTimeout
    logging.verbose := s.logging.verbose
    logging.level := s.logging.level }

/-- The settings differ from `base` only where a variable may replace a value. -/
def Over (base s : Settings) : Prop := base.replaced s = s

/-- What no variable replaces. -/
theorem over_iff {base s : Settings} : base.Over s ↔
    (base.serial.dataBits = s.serial.dataBits ∧ base.serial.parity = s.serial.parity ∧
      base.serial.stopBits = s.serial.stopBits ∧
      base.serial.flowControl = s.serial.flowControl) ∧
    base.parameters = s.parameters ∧ base.logging.format = s.logging.format ∧
    base.preparation = s.preparation := by
  obtain ⟨⟨port, baud, readTimeout, dataBits, parity, stopBits, flowControl⟩, parameters,
    ⟨responseTimeout, interCommandDelay, onTimeout⟩, ⟨verbose, level, format⟩, preparation⟩ := s
  simp only [Over, replaced, mk.injEq, Serial.mk.injEq, Logging.mk.injEq, true_and]

end Settings

namespace Override

variable {base s s' : Settings} {lookup : String → Option String}

theorem map_eq_ok {ε α β : Type} {x : Except ε α} {f : α → β} {b : β} (h : x.map f = .ok b) :
    ∃ a, b = f a := by
  cases x with
  | ok a =>
    cases h
    exact ⟨a, rfl⟩
  | error e => cases h

/-- One variable replaces only what it is for. -/
theorem apply_over {o : Override} {value : String} (member : o ∈ all)
    (h : o.apply value s = .ok s') (hs : base.Over s) : base.Over s' := by
  rw [Settings.over_iff] at hs ⊢
  simp only [all, List.mem_cons, List.not_mem_nil, or_false] at member
  rcases member with rfl | rfl | rfl | rfl | rfl | rfl | rfl | rfl
  all_goals
    simp only [port, baud, readTimeout, responseTimeout, interCommandDelay, onTimeout, verbose,
      level] at h
  · cases h
    exact hs
  · obtain ⟨n, rfl⟩ := map_eq_ok h
    exact hs
  · obtain ⟨n, rfl⟩ := map_eq_ok h
    exact hs
  · obtain ⟨n, rfl⟩ := map_eq_ok h
    exact hs
  · obtain ⟨n, rfl⟩ := map_eq_ok h
    exact hs
  · obtain ⟨policy, rfl⟩ := map_eq_ok h
    exact hs
  · cases h
    exact hs
  · cases h
    exact hs

/-- However far the overlay comes, it replaces nothing else. -/
theorem overlay_over {os : List Override} (members : ∀ o ∈ os, o ∈ all) (hs : base.Over s) :
    base.Over (overlay lookup os s).1 := by
  induction os generalizing s with
  | nil => exact hs
  | cons o rest ih =>
    have hrest := fun o' h => members o' (List.mem_cons_of_mem o h)
    unfold overlay
    cases lookup o.name with
    | none => exact ih hrest hs
    | some value =>
      dsimp only
      cases h : o.apply value s with
      | ok s' => exact ih hrest (apply_over (members o List.mem_cons_self) h hs)
      | error message => exact hs

/-- The overlay stops only at a variable that is set and cannot be read, and names it. -/
theorem overlay_stops {os : List Override} {e : SettingsError}
    (h : (overlay lookup os s).2 = some e) :
    ∃ o ∈ os, ∃ value message, lookup o.name = some value ∧ e = .badVariable o.name message := by
  induction os generalizing s with
  | nil => cases h
  | cons o rest ih =>
    unfold overlay at h
    cases hset : lookup o.name with
    | none =>
      rw [hset] at h
      obtain ⟨o', member, hstop⟩ := ih h
      exact ⟨o', List.mem_cons_of_mem o member, hstop⟩
    | some value =>
      rw [hset] at h
      dsimp only at h
      cases happly : o.apply value s with
      | ok s' =>
        rw [happly] at h
        obtain ⟨o', member, hstop⟩ := ih h
        exact ⟨o', List.mem_cons_of_mem o member, hstop⟩
      | error message =>
        rw [happly] at h
        cases h
        exact ⟨o, List.mem_cons_self, value, message, hset, rfl⟩

end Override

namespace Settings

/-- The folder with the user's settings: the one named, even by an empty name, and else a folder
in the home of the user. -/
inductive UserFolder (env : String → Option String) : String → Prop where
  | named (set : env "XDG_CONFIG_HOME" = some base) : UserFolder env base
  | home (unset : env "XDG_CONFIG_HOME" = none) (set : env "HOME" = some home) :
      UserFolder env (joinPath home ".config")

/-- The file in a user's folder. -/
def below (folder : String) : String := joinPath (joinPath folder "at-test") fileName

/-- Where the settings are found: at the path asked for, at hand, or in the user's folder. A path
at which there is nothing is passed over. -/
inductive Located (around : Surroundings) : Option String → Prop where
  | asked (set : around.env "AT_TEST_CONFIG" = some path) (has : around.Has path) :
      Located around (some path)
  | atHand (unasked : ∀ path, around.env "AT_TEST_CONFIG" = some path → ¬ around.Has path)
      (has : around.Has fileName) : Located around (some fileName)
  | ofUser (unasked : ∀ path, around.env "AT_TEST_CONFIG" = some path → ¬ around.Has path)
      (missing : ¬ around.Has fileName) (folder : UserFolder around.env base)
      (has : around.Has (below base)) : Located around (some (below base))
  | nowhere (unasked : ∀ path, around.env "AT_TEST_CONFIG" = some path → ¬ around.Has path)
      (missing : ¬ around.Has fileName)
      (bare : ∀ base, UserFolder around.env base → ¬ around.Has (below base)) :
      Located around none

theorem userFolder?_eq_some {around : Surroundings} {base : String} :
    userFolder? around = some base ↔ UserFolder around.env base := by
  unfold userFolder?
  constructor
  · intro h
    cases hxdg : around.env "XDG_CONFIG_HOME" with
    | some folder =>
      rw [hxdg] at h
      cases h
      exact .named hxdg
    | none =>
      rw [hxdg] at h
      obtain ⟨home, hhome, rfl⟩ := Option.map_eq_some_iff.mp h
      exact .home hxdg hhome
  · rintro (hset | ⟨hunset, hset⟩)
    · rw [hset]
    · rw [hunset, hset]
      rfl

/-- The candidates one after another. -/
theorem locate?_eq (around : Surroundings) :
    locate? around =
      ((around.env "AT_TEST_CONFIG").filter fun path => (around.look path).exists).or
        (if (around.look fileName).exists then some fileName
        else ((userFolder? around).map below).filter fun path => (around.look path).exists) := by
  unfold locate? candidates
  rw [List.append_assoc, List.find?_append, List.singleton_append, List.find?_cons]
  congr 1
  · cases around.env "AT_TEST_CONFIG" with
    | none => rfl
    | some path => exact List.find?_singleton
  · cases (around.look fileName).exists with
    | true => rfl
    | false =>
      cases userFolder? around with
      | none => rfl
      | some base => exact List.find?_singleton

/-- What is asked for and missing does not count. -/
theorem locate?_unasked {around : Surroundings}
    (unasked : ∀ path, around.env "AT_TEST_CONFIG" = some path → ¬ around.Has path) :
    locate? around = if (around.look fileName).exists then some fileName
      else ((userFolder? around).map below).filter fun path => (around.look path).exists := by
  have hfilter : (around.env "AT_TEST_CONFIG").filter
      (fun path => (around.look path).exists) = none := by
    refine Option.filter_eq_none_iff.mpr fun path hset hexists => ?_
    exact unasked path hset (Surroundings.has_iff.mpr hexists)
  rw [locate?_eq, hfilter, Option.none_or]

theorem locate?_located (around : Surroundings) : Located around (locate? around) := by
  by_cases hasked : ∃ path, around.env "AT_TEST_CONFIG" = some path ∧ around.Has path
  · obtain ⟨path, hset, has⟩ := hasked
    rw [locate?_eq, hset, Option.filter_some, if_pos (Surroundings.has_iff.mp has), Option.some_or]
    exact .asked hset has
  · have unasked : ∀ path, around.env "AT_TEST_CONFIG" = some path → ¬ around.Has path :=
      fun path hset has => hasked ⟨path, hset, has⟩
    rw [locate?_unasked unasked]
    by_cases has : around.Has fileName
    · rw [if_pos (Surroundings.has_iff.mp has)]
      exact .atHand unasked has
    · rw [if_neg (mt Surroundings.has_iff.mpr has)]
      cases hfolder : userFolder? around with
      | none =>
        refine .nowhere unasked has fun base folder => ?_
        rw [userFolder?_eq_some.mpr folder] at hfolder
        cases hfolder
      | some base =>
        have folder := userFolder?_eq_some.mp hfolder
        rw [Option.map_some, Option.filter_some]
        by_cases hbelow : around.Has (below base)
        · rw [if_pos (Surroundings.has_iff.mp hbelow)]
          exact .ofUser unasked has folder hbelow
        · rw [if_neg (mt Surroundings.has_iff.mpr hbelow)]
          refine .nowhere unasked has fun base' folder' => ?_
          cases hfolder.symm.trans (userFolder?_eq_some.mpr folder')
          exact hbelow

theorem Located.locate? {around : Surroundings} {found : Option String}
    (h : Located around found) : locate? around = found := by
  cases h with
  | asked set has =>
    rw [locate?_eq, set, Option.filter_some, if_pos (Surroundings.has_iff.mp has), Option.some_or]
  | atHand unasked has => rw [locate?_unasked unasked, if_pos (Surroundings.has_iff.mp has)]
  | ofUser unasked missing folder has =>
    rw [locate?_unasked unasked, if_neg (mt Surroundings.has_iff.mpr missing),
      userFolder?_eq_some.mpr folder, Option.map_some, Option.filter_some,
      if_pos (Surroundings.has_iff.mp has)]
  | nowhere unasked missing bare =>
    rw [locate?_unasked unasked, if_neg (mt Surroundings.has_iff.mpr missing)]
    refine Option.filter_eq_none_iff.mpr fun path hbelow hexists => ?_
    obtain ⟨base, hfolder, rfl⟩ := Option.map_eq_some_iff.mp hbelow
    exact bare base (userFolder?_eq_some.mp hfolder) (Surroundings.has_iff.mpr hexists)

/-- The home of the user is not asked about where the folder has a name of its own. -/
theorem locate?_homeless {around around' : Surroundings} (look : around'.look = around.look)
    (env : ∀ name, name ≠ "HOME" → around'.env name = around.env name)
    (named : around.env "XDG_CONFIG_HOME" ≠ none) : locate? around' = locate? around := by
  have hasked := env "AT_TEST_CONFIG" (by decide)
  have hxdg := env "XDG_CONFIG_HOME" (by decide)
  obtain ⟨folder, hfolder⟩ := Option.ne_none_iff_exists'.mp named
  have hsame : userFolder? around' = userFolder? around := by
    unfold userFolder?
    rw [hxdg, hfolder]
  rw [locate?_eq, locate?_eq, look, hasked, hsame]

/-- What the settings of a file, or those built in, come to: the first variable that cannot be
read, the first flaw, or settings without a flaw. -/
inductive Completed (around : Surroundings) (source : Option String) (base : Settings) :
    Except SettingsError Loaded → Prop where
  | badVariable (stopped : (base.overlay around.env).2 = some (.badVariable name message)) :
      Completed around source base (.error (.badVariable name message))
  | invalid (overlaid : base.overlay around.env = (s, none)) (flawed : s.flaw? = some flaw) :
      Completed around source base (.error (.invalid flaw.key flaw.message))
  | sound (overlaid : base.overlay around.env = (s, none)) (flawless : s.flaw? = none) :
      Completed around source base (.ok ⟨source, s⟩)

/-- What a file comes to: it cannot be read, what it says is no settings, or it is completed. -/
inductive LoadedFrom (around : Surroundings) (path : String) :
    Except SettingsError Loaded → Prop where
  | unreadable (hidden : ∀ text, ¬ around.Reads path text)
      (refused : readFile around path = .error fault) :
      LoadedFrom around path (.error (.unreadable path fault))
  | unparsable (read : around.Reads path text) (malformed : ofToml? text = none) :
      LoadedFrom around path (.error (.unparsable path))
  | parsed (read : around.Reads path text) (meant : ofToml? text = some base)
      (completed : Completed around (some path) base r) : LoadedFrom around path r

theorem readFile_eq_ok {around : Surroundings} {path text : String} :
    readFile around path = .ok text ↔ around.Reads path text := by
  unfold readFile Surroundings.Reads
  by_cases hzero : '\x00' ∈ path.toList
  · simp [hzero]
  · cases hlook : around.look path with
    | absent e => simp [hzero]
    | folder => simp [hzero]
    | closed e => simp [hzero]
    | file bytes =>
      have hfile : Sight.file bytes = .file (Text.encode text) ↔
          Text.ofBytes? bytes = some text := by
        rw [Text.ofBytes?_eq_some, Sight.file.injEq, eq_comm]
      rw [hfile]
      cases htext : Text.ofBytes? bytes <;> simp [hzero, htext]

theorem completed_iff {around : Surroundings} {source : Option String} {base : Settings}
    {r : Except SettingsError Loaded} :
    (complete around base).map (⟨source, ·⟩) = r ↔ Completed around source base r := by
  unfold complete
  constructor
  · rintro rfl
    cases hoverlay : base.overlay around.env with
    | mk s stopped =>
      cases stopped with
      | some e =>
        obtain ⟨o, -, value, message, -, rfl⟩ :=
          Override.overlay_stops (congrArg Prod.snd hoverlay)
        exact .badVariable (congrArg Prod.snd hoverlay)
      | none =>
        dsimp only
        unfold check
        cases hflaw : s.flaw? with
        | none => exact .sound hoverlay hflaw
        | some flaw => exact .invalid hoverlay hflaw
  · rintro (stopped | ⟨overlaid, flawed⟩ | ⟨overlaid, flawless⟩)
    · cases hoverlay : base.overlay around.env with
      | mk s e =>
        rw [hoverlay] at stopped
        cases stopped
        rfl
    · rw [overlaid]
      dsimp only
      rw [check, flawed]
      rfl
    · rw [overlaid]
      dsimp only
      rw [check, flawless]
      rfl

theorem loadedFrom_iff {around : Surroundings} {path : String} {r : Except SettingsError Loaded} :
    loadFrom around path = r ↔ LoadedFrom around path r := by
  have hload : loadFrom around path = (ofFile around path).bind fun base =>
      (complete around base).map (⟨some path, ·⟩) := rfl
  rw [hload, ofFile]
  constructor
  · rintro rfl
    cases hread : readFile around path with
    | error fault =>
      refine .unreadable (fun text read => ?_) hread
      rw [readFile_eq_ok.mpr read] at hread
      cases hread
    | ok text =>
      have read := readFile_eq_ok.mp hread
      dsimp only
      cases hmeant : ofToml? text with
      | none => exact .unparsable read hmeant
      | some base => exact .parsed read hmeant (completed_iff.mp rfl)
  · rintro (⟨hidden, refused⟩ | ⟨read, malformed⟩ | ⟨read, meant, completed⟩)
    · rw [refused]
      rfl
    · rw [readFile_eq_ok.mpr read]
      dsimp only
      rw [malformed]
      rfl
    · rw [readFile_eq_ok.mpr read]
      dsimp only
      rw [meant]
      exact completed_iff.mpr completed

theorem load_eq (around : Surroundings) : load around = match locate? around with
    | some path => loadFrom around path
    | none => (complete around {}).map (⟨none, ·⟩) := rfl

/-- A value that is no text is not heard. -/
theorem load_congr {around around' : Surroundings} (look : around'.look = around.look)
    (env : around'.env = around.env) :
    locate? around' = locate? around ∧ load around' = load around := by
  have hlocate : locate? around' = locate? around := by
    unfold locate? candidates userFolder?
    rw [look, env]
  have hcomplete : complete around' = complete around := by
    funext s
    unfold complete
    rw [env]
  have hfrom : loadFrom around' = loadFrom around := by
    funext path
    unfold loadFrom ofFile readFile
    rw [look, hcomplete]
  refine ⟨hlocate, ?_⟩
  rw [load_eq, load_eq, hlocate, hcomplete, hfrom]

/-- What is completed successfully has no flaw and is `base` but for what a variable replaces. -/
theorem Completed.sound_of_ok {around : Surroundings} {source : Option String} {base : Settings}
    {loaded : Loaded} (h : Completed around source base (.ok loaded)) :
    loaded.source = source ∧ check loaded.settings = .ok () ∧ base.Over loaded.settings := by
  cases h with
  | sound overlaid flawless =>
    refine ⟨rfl, ?_, ?_⟩
    · rw [check, flawless]
    · have hover : base.Over (base.overlay around.env).1 :=
        Override.overlay_over (fun _ => id) (rfl : base.Over base)
      rwa [overlaid] at hover

/-- The settings that a source stands for before the environment is heard. -/
def Source (around : Surroundings) (base : Settings) : Option String → Prop
  | none => base = {}
  | some path => ∃ text, around.Reads path text ∧ ofToml? text = some base

/-- Whatever stands in the environment and on the disk. The settings file is the first that exists
of those that count, in their order, and the home of the user counts only where no folder has a
name of its own. A variable that is set to something other than text is as good as unset. Loading
is loading from that file, and without one it completes what is built in. Of what may be wrong with
a file the first decides. Settings that are loaded pass the check, and differ from what their source
says only where a variable may replace a value. -/
theorem load_first_found (around : Surroundings) :
    (∀ found, locate? around = found ↔ Located around found) ∧
    (∀ around' : Surroundings, around'.look = around.look →
      (∀ name, name ≠ "HOME" → around'.env name = around.env name) →
      around.env "XDG_CONFIG_HOME" ≠ none → locate? around' = locate? around) ∧
    (∀ around' : Surroundings, around'.look = around.look → around'.env = around.env →
      locate? around' = locate? around ∧ load around' = load around) ∧
    (∀ path, locate? around = some path → load around = loadFrom around path) ∧
    (locate? around = none → ∀ r, load around = r ↔ Completed around none {} r) ∧
    (∀ path r, loadFrom around path = r ↔ LoadedFrom around path r) ∧
    ∀ loaded, load around = .ok loaded ∨ (∃ path, loadFrom around path = .ok loaded) →
      check loaded.settings = .ok () ∧
        ∃ base, Source around base loaded.source ∧ base.Over loaded.settings := by
  have hloaded : ∀ path loaded, loadFrom around path = .ok loaded →
      check loaded.settings = .ok () ∧
        ∃ base, Source around base loaded.source ∧ base.Over loaded.settings := by
    intro path loaded h
    cases loadedFrom_iff.mp h with
    | parsed read meant completed =>
      obtain ⟨hsource, hcheck, hover⟩ := completed.sound_of_ok
      exact ⟨hcheck, _, hsource ▸ ⟨_, read, meant⟩, hover⟩
  have hfound : ∀ path, locate? around = some path → load around = loadFrom around path := by
    intro path h
    rw [load_eq, h]
  have hbuilt : locate? around = none → ∀ r, load around = r ↔ Completed around none {} r := by
    intro h r
    rw [load_eq, h]
    exact completed_iff
  refine ⟨?_, ?_, fun around' => load_congr, hfound, hbuilt, fun path r => loadedFrom_iff, ?_⟩
  · exact fun found => ⟨fun h => h ▸ locate?_located around, Located.locate?⟩
  · exact fun around' look env named => locate?_homeless look env named
  · rintro loaded (h | ⟨path, h⟩)
    · cases hlocate : locate? around with
      | some path => exact hloaded path loaded (hfound path hlocate ▸ h)
      | none =>
        obtain ⟨hsource, hcheck, hover⟩ := ((hbuilt hlocate _).mp h).sound_of_ok
        exact ⟨hcheck, {}, hsource ▸ rfl, hover⟩
    · exact hloaded path loaded h

/-- What is asked for is missing, and the folder of the user has an empty name. -/
theorem unnamed_folder_load :
    let env (name : String) : Option String :=
      if name = "AT_TEST_CONFIG" then some "gone.toml"
      else if name = "XDG_CONFIG_HOME" then some ""
      else if name = "AT_TEST_SERIAL_BAUD" then some "9600"
      else none
    let around : Surroundings := .ofTexts env fun path =>
      if path = "at-test/at-test.toml" then .file (Text.encode "[serial]\nport = \"M\"\n")
      else .absent .missing
    let loaded : Loaded :=
      ⟨some "at-test/at-test.toml", { serial := { port := "M", baud := 9600 } }⟩
    Located around (some "at-test/at-test.toml") ∧ load around = .ok loaded ∧
      ∃ base, Source around base loaded.source ∧ base.Over loaded.settings := by
  intro env around loaded
  have h := load_first_found around
  have hlocate : locate? around = some "at-test/at-test.toml" := rfl
  have hmeant : ofToml? "[serial]\nport = \"M\"\n" = some { serial.port := "M" } := by cbv
  have hload : load around = .ok loaded := by
    rw [h.2.2.2.1 _ hlocate]
    exact (h.2.2.2.2.2.1 _ _).mpr (.parsed ⟨by decide, rfl⟩ hmeant (.sound rfl (by decide)))
  exact ⟨(h.1 _).mp hlocate, hload, (h.2.2.2.2.2.2 loaded (.inl hload)).2⟩

/-- A folder with a name that is no text does not keep the home of the user from being asked about.
Below a folder without a name the path is that of a file at hand, not one from the root. -/
theorem strange_folders_located :
    let strange : Surroundings :=
      ⟨fun name =>
        if name = "XDG_CONFIG_HOME" then some [0xFF]
        else if name = "HOME" then some (Text.encode "/root")
        else none,
      fun path => if path = "/root/.config/at-test/at-test.toml" then .file [] else .absent .missing⟩
    let nameless : Surroundings := .ofTexts
      (fun name => if name = "XDG_CONFIG_HOME" then some "" else none)
      fun path => if path = "at-test/at-test.toml" then .file [] else .absent .missing
    strange.values "XDG_CONFIG_HOME" = some [0xFF] ∧
      locate? strange = some "/root/.config/at-test/at-test.toml" ∧
      ¬ nameless.Has "/at-test/at-test.toml" ∧
      locate? nameless = some "at-test/at-test.toml" := by
  intro strange nameless
  refine ⟨rfl, rfl, ?_, rfl⟩
  rw [Surroundings.has_iff]
  decide

end Settings

end ModemBench
