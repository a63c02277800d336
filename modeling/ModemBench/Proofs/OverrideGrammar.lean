import Mathlib
import ModemBench.Proofs.CommandSyntax
import ModemBench.Proofs.Overlay
/-!
What the variables of the environment may say. A number is a row of digits, a policy has one of
three names, and white space around either does not count.
-/

namespace ModemBench

namespace Text

/-- A text with white space around its core. -/
def Padded (text core : List Char) : Prop :=
  ∃ front back, text = front ++ core ++ back ∧ ∀ c ∈ front ++ back, isBlank c = true

/-- One or more digits with a plus sign before them or none, and their decimal value. -/
def Spells (cs : List Char) (n : Nat) : Prop :=
  ∃ sign digits, cs = sign ++ digits ∧ (sign = [] ∨ sign = ['+']) ∧ digits ≠ [] ∧
    (∀ c ∈ digits, '0' ≤ c ∧ c ≤ '9') ∧
    n = Nat.ofDigits 10 (digits.reverse.map fun c => c.toNat - '0'.toNat)

/-- The letters of a word, which is in small letters, in either case. -/
def SameWord (cs word : List Char) : Prop :=
  List.Forall₂ (fun c d => c = d ∨ 'A' ≤ c ∧ c ≤ 'Z' ∧ d.toNat = c.toNat + 32) cs word

theorem padded_trimmed (text : List Char) : Padded text (trimmed text) := by
  refine ⟨text.takeWhile isBlank, (text.dropWhile isBlank).rtakeWhile isBlank, ?_, ?_⟩
  · have hback : trimmed text ++ (text.dropWhile isBlank).rtakeWhile isBlank =
        text.dropWhile isBlank := List.rdropWhile_append_rtakeWhile
    rw [List.append_assoc, hback, List.takeWhile_append_dropWhile]
  · intro c hc
    rcases List.mem_append.mp hc with hc | hc
    · exact List.mem_takeWhile_imp hc
    · exact List.mem_rtakeWhile_imp hc

/-- Trimming stops at anything that is not white space. -/
theorem dropWhile_blank {front cs : List Char} (blank : ∀ c ∈ front, isBlank c = true)
    (solid : ∀ c ∈ cs.head?, isBlank c = false) : (front ++ cs).dropWhile isBlank = cs := by
  rw [List.dropWhile_append_of_pos blank]
  cases cs with
  | nil => rfl
  | cons c cs => exact List.dropWhile_cons_of_neg (by simpa using solid c rfl)

theorem Padded.trimmed_eq {text core : List Char} (h : Padded text core)
    (solid : ∀ c ∈ core, isBlank c = false) : trimmed text = core := by
  obtain ⟨front, back, rfl, hblank⟩ := h
  obtain ⟨hfront, hback⟩ := List.forall_mem_append.mp hblank
  rw [trimmed, List.append_assoc]
  by_cases hcore : core = []
  · subst hcore
    have hall : (front ++ ([] ++ back)).dropWhile isBlank = [] :=
      List.dropWhile_eq_nil_iff.mpr (by simpa using hblank)
    rw [hall]
    rfl
  · have hhead : ∀ c ∈ (core ++ back).head?, isBlank c = false := by
      rw [List.head?_append_of_ne_nil _ hcore]
      exact fun c hc => solid c (List.mem_of_mem_head? hc)
    have hlast : ∀ c ∈ core.reverse.head?, isBlank c = false := by
      rw [List.head?_reverse]
      exact fun c hc => solid c (List.mem_of_mem_getLast? hc)
    have hreverse : ∀ c ∈ back.reverse, isBlank c = true := by simpa using hback
    rw [dropWhile_blank hfront hhead, List.reverse_append, dropWhile_blank hreverse hlast,
      List.reverse_reverse]

theorem isDigit_iff (c : Char) : isDigit c = true ↔ '0' ≤ c ∧ c ≤ '9' := by
  simp [isDigit]

theorem digitsValue_eq (cs : List Char) :
    digitsValue cs = Nat.ofDigits 10 (cs.reverse.map fun c => c.toNat - '0'.toNat) := by
  rw [Nat.ofDigits_eq_foldr, List.foldr_map, List.foldr_reverse, digitsValue]
  congr 1
  funext n c
  simp only [digit, Nat.cast_id]
  omega

theorem digits?_eq_some {cs : List Char} {n : Nat} : digits? cs = some n ↔
    cs ≠ [] ∧ (∀ c ∈ cs, '0' ≤ c ∧ c ≤ '9') ∧
      n = Nat.ofDigits 10 (cs.reverse.map fun c => c.toNat - '0'.toNat) := by
  simp only [digits?, List.all_eq_true, isDigit_iff, digitsValue_eq, Option.ite_none_right_eq_some,
    Option.some_inj, and_assoc, @eq_comm _ n]

/-- What is read as a number is one sign or none, and digits. -/
theorem digits?_unsigned {cs : List Char} {n : Nat} :
    digits? (unsigned cs) = some n ↔ Spells cs n := by
  constructor
  · intro h
    unfold unsigned at h
    split at h
    · exact ⟨['+'], _, rfl, .inr rfl, digits?_eq_some.mp h⟩
    · exact ⟨[], _, rfl, .inl rfl, digits?_eq_some.mp h⟩
  · rintro ⟨sign, digits, rfl, rfl | rfl, hdigits⟩
    · have hplus : unsigned ([] ++ digits) = digits := by
        unfold unsigned
        split
        · next rest heq =>
          have hhead := hdigits.2.1 '+' (by rw [← List.nil_append digits, heq]; simp)
          exact absurd hhead (by decide)
        · rfl
      rw [hplus]
      exact digits?_eq_some.mpr hdigits
    · exact digits?_eq_some.mpr hdigits

/-- No visible character of ASCII is white space. -/
theorem isBlank_of_visible {c : Char} (low : '!' ≤ c) (high : c ≤ '~') : isBlank c = false := by
  have hlow : 0x21 ≤ c.toNat := low
  have hhigh : c.toNat ≤ 0x7E := high
  simp [isBlank]
  omega

theorem Spells.solid {cs : List Char} {n : Nat} (h : Spells cs n) :
    ∀ c ∈ cs, isBlank c = false := by
  obtain ⟨sign, digits, rfl, hsign, -, hdigits, -⟩ := h
  intro c hc
  rcases List.mem_append.mp hc with hc | hc
  · rcases hsign with rfl | rfl
    · cases hc
    · rw [List.mem_singleton.mp hc]
      rfl
  · obtain ⟨hlow, hhigh⟩ := hdigits c hc
    exact isBlank_of_visible (hlow.trans' (by decide)) (hhigh.trans (by decide))

/-- Exactly the padded numerals up to the limit are numbers. -/
theorem numeral?_trim {limit n : Nat} {text : String} :
    numeral? limit (trim text) = some n ↔
      n ≤ limit ∧ ∃ core, Padded text.toList core ∧ Spells core n := by
  rw [numeral?, trim, String.toList_ofList, Option.filter_eq_some_iff, digits?_unsigned,
    decide_eq_true_iff, and_comm]
  refine and_congr_right fun _ => ⟨fun h => ⟨_, padded_trimmed _, h⟩, ?_⟩
  rintro ⟨core, hpadded, hspells⟩
  rwa [hpadded.trimmed_eq hspells.solid]

theorem toLower_eq_iff {c d : Char} (small : ¬('A' ≤ d ∧ d ≤ 'Z')) :
    c.toLower = d ↔ c = d ∨ 'A' ≤ c ∧ c ≤ 'Z' ∧ d.toNat = c.toNat + 32 := by
  unfold Char.toLower
  split
  · next h =>
    have hsum : (c.val + ('a'.val - 'A'.val)).toNat = c.toNat + 32 := by
      have hhigh : c.val.toNat ≤ 90 := h.2
      have hsmall : 'a'.val - 'A'.val = 32 := rfl
      rw [hsmall, UInt32.toNat_add]
      exact Nat.mod_eq_of_lt (Nat.lt_of_le_of_lt (Nat.add_le_add_right hhigh _) (by decide))
    constructor
    · rintro rfl
      exact .inr ⟨h.1, h.2, hsum⟩
    · rintro (rfl | ⟨-, -, hd⟩)
      · exact absurd h small
      · exact Char.ext (UInt32.toNat_inj.mp (hsum.trans hd.symm))
  · next h => exact ⟨.inl, fun hd => hd.resolve_right fun hupper => h ⟨hupper.1, hupper.2.1⟩⟩

theorem map_toLower_eq_iff {cs word : List Char} (small : ∀ d ∈ word, ¬('A' ≤ d ∧ d ≤ 'Z')) :
    cs.map Char.toLower = word ↔ SameWord cs word := by
  unfold SameWord
  induction word generalizing cs with
  | nil => simp
  | cons d word ih =>
    obtain ⟨hd, hword⟩ := List.forall_mem_cons.mp small
    cases cs with
    | nil => simp
    | cons c cs =>
      rw [List.map_cons, List.cons_eq_cons, List.forall₂_cons, ih hword, toLower_eq_iff hd]

theorem SameWord.solid {cs word : List Char} (h : SameWord cs word)
    (solid : ∀ d ∈ word, isBlank d = false) : ∀ c ∈ cs, isBlank c = false := by
  induction h with
  | nil => exact List.forall_mem_nil _
  | cons same rest ih =>
    obtain ⟨hd, hword⟩ := List.forall_mem_cons.mp solid
    refine List.forall_mem_cons.mpr ⟨?_, ih hword⟩
    rcases same with rfl | ⟨hlow, hhigh, -⟩
    · exact hd
    · exact isBlank_of_visible (hlow.trans' (by decide)) (hhigh.trans (by decide))

/-- A text is a word but for letter case and white space around it. -/
theorem trimmed_toLower_eq_iff {text word : List Char} (small : ∀ d ∈ word, ¬('A' ≤ d ∧ d ≤ 'Z'))
    (solid : ∀ d ∈ word, isBlank d = false) :
    (trimmed text).map Char.toLower = word ↔ ∃ core, Padded text core ∧ SameWord core word := by
  rw [map_toLower_eq_iff small]
  refine ⟨fun h => ⟨_, padded_trimmed _, h⟩, ?_⟩
  rintro ⟨core, hpadded, hsame⟩
  rwa [hpadded.trimmed_eq (hsame.solid solid)]

end Text

/-- What a policy may be called. -/
def TimeoutPolicy.names : TimeoutPolicy → List String
  | abort => ["abort"]
  | retryOnce => ["retry_once", "retry-once"]

/-- A text names a policy, in any letter case and with white space around it. -/
def TimeoutPolicy.Named (policy : TimeoutPolicy) (text : String) : Prop :=
  ∃ name ∈ policy.names, ∃ core, Text.Padded text.toList core ∧ Text.SameWord core name.toList

namespace TimeoutPolicy

theorem names_plain (policy : TimeoutPolicy) : ∀ name ∈ policy.names, ∀ d ∈ name.toList,
    ¬('A' ≤ d ∧ d ≤ 'Z') ∧ '!' ≤ d ∧ d ≤ '~' := by
  cases policy <;> simp [names]

theorem named_iff {text : String} {policy : TimeoutPolicy} : policy.Named text ↔
    String.ofList ((Text.trimmed text.toList).map Char.toLower) ∈ policy.names := by
  have hname (name : String) (mem : name ∈ policy.names) :
      (∃ core, Text.Padded text.toList core ∧ Text.SameWord core name.toList) ↔
        String.ofList ((Text.trimmed text.toList).map Char.toLower) = name := by
    have hplain := policy.names_plain name mem
    have hsolid : ∀ d ∈ name.toList, Text.isBlank d = false := fun d hd =>
      Text.isBlank_of_visible (hplain d hd).2.1 (hplain d hd).2.2
    rw [← Text.trimmed_toLower_eq_iff (fun d hd => (hplain d hd).1) hsolid, ← String.toList_inj,
      String.toList_ofList]
  unfold Named
  constructor
  · rintro ⟨name, mem, hcore⟩
    rwa [(hname name mem).mp hcore]
  · exact fun mem => ⟨_, mem, (hname _ mem).mpr rfl⟩

theorem ofText?_eq_ok {text : String} {policy : TimeoutPolicy} :
    ofText? text = .ok policy ↔ policy.Named text := by
  rw [named_iff, ofText?]
  generalize String.ofList _ = name
  by_cases habort : name = "abort"
  · subst habort
    cases policy <;> simp [names]
  · by_cases hretry : name = "retry_once" ∨ name = "retry-once"
    · cases policy <;> simp [names, habort, hretry]
    · cases policy <;> simp [names, habort, hretry]

end TimeoutPolicy

/-- A text is a number, with white space around it. -/
def Text.Numeral (text : String) (n : Nat) : Prop :=
  ∃ core, Text.Padded text.toList core ∧ Text.Spells core n

theorem Text.numeral_padded {front back : String} (n : Nat)
    (blank : ∀ c ∈ front.toList ++ back.toList, Text.isBlank c = true) :
    Text.Numeral (front ++ toString n ++ back) n := by
  refine ⟨(toString n).toList, ⟨front.toList, back.toList, by simp, blank⟩, ?_⟩
  exact ⟨[], _, rfl, .inl rfl, Text.digits?_eq_some.mp (Text.decimal_toString n).1⟩

theorem Override.number_eq_ok {limit n : Nat} {complaint text : String} :
    number limit complaint text = .ok n ↔ n ≤ limit ∧ Text.Numeral text n := by
  rw [Text.Numeral, ← Text.numeral?_trim, number]
  cases Text.numeral? limit (Text.trim text) <;> simp

/-- A number read into a word that holds all numbers up to the limit. -/
theorem Override.number_map_eq_ok {limit : Nat} {Word : Type} {ofNat : Nat → Word}
    {toNat : Word → Nat} (fits : ∀ n ≤ limit, toNat (ofNat n) = n)
    (whole : ∀ v, toNat v ≤ limit ∧ ofNat (toNat v) = v) {complaint text : String} {v : Word} :
    (number limit complaint text).map ofNat = .ok v ↔ Text.Numeral text (toNat v) := by
  constructor
  · intro h
    cases hn : number limit complaint text with
    | error => rw [hn] at h; cases h
    | ok n =>
      rw [hn] at h
      cases h
      obtain ⟨hlimit, hnumeral⟩ := number_eq_ok.mp hn
      rwa [fits n hlimit]
  · intro h
    rw [number_eq_ok.mpr ⟨(whole v).1, h⟩, Except.map, (whole v).2]

/-- An environment in which one variable is set. -/
def alone (name text : String) : String → Option String :=
  fun other => if other = name then some text else none

namespace Settings

open Override (Target)

theorem overlay_alone (s : Settings) (k : Target) (text : String) :
    s.overlay (alone k.name text) = match k.read text with
      | .ok v => (k.set v s, none)
      | .error message => (s, some (.badVariable k.name message)) := by
  rw [overlay, Target.all_toOverride]
  cases hread : k.read text with
  | ok v | error message =>
    cases k <;> simp [Override.overlay, Target.all, Target.toOverride, Target.name, alone, hread,
      Except.map]

/-- A value is accepted where it says something, and that is what is set. -/
theorem overlay_alone_eq {s s' : Settings} {text : String} (k : Target) {Says : k.Value → Prop}
    (reads : ∀ v, k.read text = .ok v ↔ Says v) :
    s.overlay (alone k.name text) = (s', none) ↔ ∃ v, Says v ∧ s' = k.set v s := by
  simp only [← reads]
  rw [overlay_alone]
  cases k.read text <;> simp [eq_comm]

theorem read_baud {text : String} {v : UInt32} :
    Target.baud.read text = .ok v ↔ Text.Numeral text v.toNat := by
  have hfits : ∀ n ≤ Override.max32, (UInt32.ofNat n).toNat = n := fun n h =>
    UInt32.toNat_ofNat_of_lt (Nat.lt_succ_of_le h)
  have hwhole (v : UInt32) : v.toNat ≤ Override.max32 ∧ UInt32.ofNat v.toNat = v :=
    ⟨Nat.le_of_lt_succ v.toNat_lt, UInt32.ofNat_toNat⟩
  rw [Target.read, Override.number_map_eq_ok hfits hwhole]

theorem read_milliseconds {complaint text : String} {v : UInt64} :
    (Override.number Override.max64 complaint text).map UInt64.ofNat = .ok v ↔
      Text.Numeral text v.toNat := by
  have hfits : ∀ n ≤ Override.max64, (UInt64.ofNat n).toNat = n := fun n h =>
    UInt64.toNat_ofNat_of_lt (Nat.lt_succ_of_le h)
  have hwhole (v : UInt64) : v.toNat ≤ Override.max64 ∧ UInt64.ofNat v.toNat = v :=
    ⟨Nat.le_of_lt_succ v.toNat_lt, UInt64.ofNat_toNat⟩
  rw [Override.number_map_eq_ok hfits hwhole]

theorem read_readTimeout {text : String} {v : UInt64} :
    Target.readTimeout.read text = .ok v ↔ Text.Numeral text v.toNat := by
  rw [Target.read, read_milliseconds]

theorem read_responseTimeout {text : String} {v : UInt64} :
    Target.responseTimeout.read text = .ok v ↔ Text.Numeral text v.toNat := by
  rw [Target.read, read_milliseconds]

theorem read_interCommandDelay {text : String} {v : UInt64} :
    Target.interCommandDelay.read text = .ok v ↔ Text.Numeral text v.toNat := by
  rw [Target.read, read_milliseconds]

theorem read_onTimeout {text : String} {policy : TimeoutPolicy} :
    Target.onTimeout.read text = .ok policy ↔ policy.Named text := by
  rw [Target.read, TimeoutPolicy.ofText?_eq_ok]

theorem isYes_iff {text : String} :
    Override.isYes text = true ↔ text = "1" ∨ Text.SameWord text.toList "true".toList := by
  have hsmall : ∀ d ∈ "true".toList, ¬('A' ≤ d ∧ d ≤ 'Z') := by simp
  rw [← Text.map_toLower_eq_iff hsmall]
  simp [Override.isYes, or_comm]

/-- What the variables accept, whatever stands in them, and what they then set: numbers that fit
into their words, names of policies, and anything at all for the echo of traffic. A number that is
written in decimal is read back as it is. -/
theorem overlay_grammar (s : Settings) :
    (∀ text,
      (∀ s', s.overlay (alone "AT_TEST_SERIAL_BAUD" text) = (s', none) ↔
        ∃ v : UInt32, Text.Numeral text v.toNat ∧ s' = { s with serial.baud := v }) ∧
      (∀ s', s.overlay (alone "AT_TEST_SERIAL_READ_TIMEOUT_MS" text) = (s', none) ↔
        ∃ v : UInt64, Text.Numeral text v.toNat ∧ s' = { s with serial.readTimeout := v }) ∧
      (∀ s', s.overlay (alone "AT_TEST_SEQUENCER_RESPONSE_TIMEOUT_MS" text) = (s', none) ↔
        ∃ v : UInt64, Text.Numeral text v.toNat ∧ s' = { s with pacing.responseTimeout := v }) ∧
      (∀ s', s.overlay (alone "AT_TEST_SEQUENCER_INTER_COMMAND_DELAY_MS" text) = (s', none) ↔
        ∃ v : UInt64, Text.Numeral text v.toNat ∧ s' = { s with pacing.interCommandDelay := v }) ∧
      (∀ s', s.overlay (alone "AT_TEST_SEQUENCER_ON_TIMEOUT" text) = (s', none) ↔
        ∃ policy : TimeoutPolicy, policy.Named text ∧ s' = { s with pacing.onTimeout := policy }) ∧
      ∃ yes, s.overlay (alone "AT_TEST_LOGGING_VERBOSE" text) =
          ({ s with logging.verbose := yes }, none) ∧
        (yes = true ↔ text = "1" ∨ Text.SameWord text.toList "true".toList)) ∧
    (∀ front back : String, (∀ c ∈ front.toList ++ back.toList, Text.isBlank c = true) →
      (∀ v : UInt32,
        s.overlay (alone "AT_TEST_SERIAL_BAUD" (front ++ toString v.toNat ++ back)) =
          ({ s with serial.baud := v }, none)) ∧
      ∀ v : UInt64,
        s.overlay (alone "AT_TEST_SERIAL_READ_TIMEOUT_MS" (front ++ toString v.toNat ++ back)) =
          ({ s with serial.readTimeout := v }, none) ∧
        s.overlay (alone "AT_TEST_SEQUENCER_RESPONSE_TIMEOUT_MS"
            (front ++ toString v.toNat ++ back)) =
          ({ s with pacing.responseTimeout := v }, none) ∧
        s.overlay (alone "AT_TEST_SEQUENCER_INTER_COMMAND_DELAY_MS"
            (front ++ toString v.toNat ++ back)) =
          ({ s with pacing.interCommandDelay := v }, none)) := by
  have hbaud (text s') := @overlay_alone_eq s s' text .baud _ fun _ => read_baud
  have hread (text s') := @overlay_alone_eq s s' text .readTimeout _ fun _ => read_readTimeout
  have hresponse (text s') :=
    @overlay_alone_eq s s' text .responseTimeout _ fun _ => read_responseTimeout
  have hdelay (text s') :=
    @overlay_alone_eq s s' text .interCommandDelay _ fun _ => read_interCommandDelay
  have hpolicy (text s') := @overlay_alone_eq s s' text .onTimeout _ fun _ => read_onTimeout
  refine ⟨fun text => ⟨hbaud text, hread text, hresponse text, hdelay text, hpolicy text, _,
    s.overlay_alone .verbose text, isYes_iff⟩, ?_⟩
  intro front back blank
  refine ⟨fun v => (hbaud _ _).mpr ⟨v, Text.numeral_padded _ blank, rfl⟩, fun v => ?_⟩
  have hv := Text.numeral_padded v.toNat blank
  exact ⟨(hread _ _).mpr ⟨v, hv, rfl⟩, (hresponse _ _).mpr ⟨v, hv, rfl⟩,
    (hdelay _ _).mpr ⟨v, hv, rfl⟩⟩

/-- The greatest speed, between white space of three kinds. -/
theorem padded_overlay_grammar :
    (∀ c ∈ "\t\u00A0".toList ++ "\u3000".toList, Text.isBlank c = true) ∧
      overlay {} (alone "AT_TEST_SERIAL_BAUD" "\t\u00A04294967295\u3000") =
        ({ serial.baud := 4294967295 }, none) := by
  have hblank : ∀ c ∈ "\t\u00A0".toList ++ "\u3000".toList, Text.isBlank c = true := by
    simp [Text.isBlank]
  exact ⟨hblank, ((overlay_grammar {}).2 "\t\u00A0" "\u3000" hblank).1 4294967295⟩

end Settings

end ModemBench
