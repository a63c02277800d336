import ModemBench.Proofs.CodecLaws
import ModemBench.Settings.Load
/-!
The schema of the settings. Whatever part of their tree is left out, the rest is read as it was
written, and what is missing has its built-in value; a field with a scalar that is not of its kind
makes the whole tree unreadable.
-/

namespace ModemBench

def Serial.schema : Kind := .record [
  ("port", .text),
  ("baud", .number 4294967296),
  ("read_timeout_ms", .number 18446744073709551616),
  ("data_bits", .oneOf ["seven", "eight"]),
  ("parity", .oneOf ["none", "odd", "even"]),
  ("stop_bits", .oneOf ["one", "two"]),
  ("flow_control", .oneOf ["none", "software", "hardware"])]

def Parameters.schema : Kind := .record [
  ("ssid", .text),
  ("country", .text),
  ("security", .oneOf ["open", "wpa2"]),
  ("password", .text),
  ("tx_power", .number 256),
  ("dhcp", .bool),
  ("static_ip", .text),
  ("remote_ip", .text),
  ("count", .number 4294967296),
  ("interval_ms", .number 4294967296)]

def Pacing.schema : Kind := .record [
  ("response_timeout_ms", .number 18446744073709551616),
  ("inter_command_delay_ms", .number 18446744073709551616),
  ("on_timeout", .oneOf ["abort", "retry_once"])]

def Logging.schema : Kind := .record [
  ("verbose", .bool),
  ("level", .text),
  ("format", .oneOf ["json", "pretty", "compact"])]

def preparationSchema : Kind := .record [("commands", .list (.list .text))]

def Settings.schema : Kind := .record [
  ("serial", Serial.schema),
  ("parameters", Parameters.schema),
  ("sequencer", Pacing.schema),
  ("logging", Logging.schema),
  ("provision", preparationSchema)]

section Less

variable (gone : List String → Bool)

/-- The serial link with its built-in values where a field is gone. -/
def Serial.less (s : Serial) : Serial :=
  let d : Serial := {}
  { port := if gone ["port"] then d.port else s.port
    baud := if gone ["baud"] then d.baud else s.baud
    readTimeout := if gone ["read_timeout_ms"] then d.readTimeout else s.readTimeout
    dataBits := if gone ["data_bits"] then d.dataBits else s.dataBits
    parity := if gone ["parity"] then d.parity else s.parity
    stopBits := if gone ["stop_bits"] then d.stopBits else s.stopBits
    flowControl := if gone ["flow_control"] then d.flowControl else s.flowControl }

def Parameters.less (p : Parameters) : Parameters :=
  let d : Parameters := {}
  { ssid := if gone ["ssid"] then d.ssid else p.ssid
    country := if gone ["country"] then d.country else p.country
    security := if gone ["security"] then d.security else p.security
    password := if gone ["password"] then d.password else p.password
    txPower := if gone ["tx_power"] then d.txPower else p.txPower
    dhcp := if gone ["dhcp"] then d.dhcp else p.dhcp
    staticIp := if gone ["static_ip"] then d.staticIp else p.staticIp
    remoteIp := if gone ["remote_ip"] then d.remoteIp else p.remoteIp
    count := if gone ["count"] then d.count else p.count
    interval := if gone ["interval_ms"] then d.interval else p.interval }

def Pacing.less (p : Pacing) : Pacing :=
  let d : Pacing := {}
  { responseTimeout := if gone ["response_timeout_ms"] then d.responseTimeout else p.responseTimeout
    interCommandDelay :=
      if gone ["inter_command_delay_ms"] then d.interCommandDelay else p.interCommandDelay
    onTimeout := if gone ["on_timeout"] then d.onTimeout else p.onTimeout }

def Logging.less (l : Logging) : Logging :=
  let d : Logging := {}
  { verbose := if gone ["verbose"] then d.verbose else l.verbose
    level := if gone ["level"] then d.level else l.level
    format := if gone ["format"] then d.format else l.format }

def stepsLess (steps : List (List String)) : List (List String) :=
  if gone ["commands"] then [] else steps

/-- The settings with their built-in values where a section or a field is gone. -/
def Settings.less (s : Settings) : Settings :=
  let d : Settings := {}
  { serial := if gone ["serial"] then d.serial else s.serial.less fun path => gone ("serial" :: path)
    parameters := if gone ["parameters"] then d.parameters
      else s.parameters.less fun path => gone ("parameters" :: path)
    pacing := if gone ["sequencer"] then d.pacing
      else s.pacing.less fun path => gone ("sequencer" :: path)
    logging := if gone ["logging"] then d.logging
      else s.logging.less fun path => gone ("logging" :: path)
    preparation := if gone ["provision"] then d.preparation
      else stepsLess (fun path => gone ("provision" :: path)) s.preparation }

end Less

section Lawful

theorem u8_lawful : Codec.u8.Lawful (.number 256) fun _ n => n :=
  Codec.below_lawful UInt8.toNat_lt fun _ => UInt8.ofNat_toNat

theorem u32_lawful : Codec.u32.Lawful (.number 4294967296) fun _ n => n :=
  Codec.below_lawful UInt32.toNat_lt fun _ => UInt32.ofNat_toNat

theorem u64_lawful : Codec.u64.Lawful (.number 18446744073709551616) fun _ n => n :=
  Codec.below_lawful UInt64.toNat_lt fun _ => UInt64.ofNat_toNat

theorem Serial.codec_lawful : Serial.codec.Lawful Serial.schema Serial.less :=
  Layout.lawful
    (.cons Codec.text_lawful (fun _ => rfl) <|
      .cons u32_lawful (fun _ => rfl) <|
      .cons u64_lawful (fun _ => rfl) <|
      .cons (Codec.choice_lawful fun v => by cases v <;> rfl) (fun _ => rfl) <|
      .cons (Codec.choice_lawful fun v => by cases v <;> rfl) (fun _ => rfl) <|
      .cons (Codec.choice_lawful fun v => by cases v <;> rfl) (fun _ => rfl) <|
      .cons (Codec.choice_lawful fun v => by cases v <;> rfl) (fun _ => rfl) .nil)
    (by decide) fun _ _ => rfl

theorem Parameters.codec_lawful : Parameters.codec.Lawful Parameters.schema Parameters.less :=
  Layout.lawful
    (.cons Codec.text_lawful (fun _ => rfl) <|
      .cons Codec.text_lawful (fun _ => rfl) <|
      .cons (Codec.choice_lawful fun v => by cases v <;> rfl) (fun _ => rfl) <|
      .cons Codec.text_lawful (fun _ => rfl) <|
      .cons u8_lawful (fun _ => rfl) <|
      .cons Codec.bool_lawful (fun _ => rfl) <|
      .cons Codec.text_lawful (fun _ => rfl) <|
      .cons Codec.text_lawful (fun _ => rfl) <|
      .cons u32_lawful (fun _ => rfl) <|
      .cons u32_lawful (fun _ => rfl) .nil)
    (by decide) fun _ _ => rfl

theorem Pacing.codec_lawful : Pacing.codec.Lawful Pacing.schema Pacing.less :=
  Layout.lawful
    (.cons u64_lawful (fun _ => rfl) <|
      .cons u64_lawful (fun _ => rfl) <|
      .cons (Codec.choice_lawful fun v => by cases v <;> rfl) (fun _ => rfl) .nil)
    (by decide) fun _ _ => rfl

theorem Logging.codec_lawful : Logging.codec.Lawful Logging.schema Logging.less :=
  Layout.lawful
    (.cons Codec.bool_lawful (fun _ => rfl) <|
      .cons Codec.text_lawful (fun _ => rfl) <|
      .cons (Codec.choice_lawful fun v => by cases v <;> rfl) (fun _ => rfl) .nil)
    (by decide) fun _ _ => rfl

theorem preparationCodec_lawful : preparationCodec.Lawful preparationSchema stepsLess := by
  have hsteps := Codec.list_lawful (Codec.list_lawful Codec.text_lawful)
  exact Layout.lawful (.cons hsteps (fun _ => rfl) .nil) (by decide) fun _ _ => rfl

theorem Settings.codec_lawful : Settings.codec.Lawful Settings.schema Settings.less :=
  Layout.lawful
    (.cons Serial.codec_lawful (fun _ => rfl) <|
      .cons Parameters.codec_lawful (fun _ => rfl) <|
      .cons Pacing.codec_lawful (fun _ => rfl) <|
      .cons Logging.codec_lawful (fun _ => rfl) <|
      .cons preparationCodec_lawful (fun _ => rfl) .nil)
    (by decide) fun _ _ => rfl

end Lawful

namespace Settings

/-- Settings are read back from their tree, and from what is left of it with built-in values in
place of what is gone, whatever else stands in its tables. Their tree follows the schema in each
field, and no tree is read in which a field has a scalar against the schema. -/
theorem codec_round_trip (dialect : Tree.Dialect) (s : Settings) :
    codec.ofTree? dialect (codec.toTree s) = some s ∧
    (∀ t, (codec.toTree s).Pruned (fun _ => false) t → codec.ofTree? dialect t = some s) ∧
    (∀ gone t, (codec.toTree s).Pruned gone t →
      codec.ofTree? dialect t = some (s.less gone)) ∧
    schema.Admits (codec.toTree s) ∧
    ∀ t, schema.Spoilt t → codec.ofTree? dialect t = none := by
  have hprunes := codec_lawful.prunes dialect
  refine ⟨?_, ?_, fun gone => hprunes gone s, codec_lawful.admits s, codec_lawful.refuses dialect⟩
  · exact hprunes _ s _ (codec_lawful.whole s)
  · exact fun t ht => hprunes _ s t ht

/-- Of settings with a port, a speed and a policy of their own, the port and the policy are left. -/
theorem partial_round_trip :
    let s : Settings :=
      { serial := { port := "/dev/ttyUSB1", baud := 9600 }, pacing.onTimeout := .retryOnce }
    let gone (path : List String) : Bool :=
      !path ∈ [["serial"], ["serial", "port"], ["sequencer"], ["sequencer", "on_timeout"]]
    let serial : Tree := .table [("speed", .float), ("port", .text "/dev/ttyUSB1")]
    let sequencer : Tree := .table [("on_timeout", .text "retry_once")]
    let t : Tree := .table [("serial", serial), ("comment", .null), ("sequencer", sequencer)]
    (codec.toTree s).Pruned gone t ∧ codec.ofTree? jsonDialect t =
      some { serial.port := "/dev/ttyUSB1", pacing.onTimeout := .retryOnce } := by
  intro s gone serial sequencer t
  have hserial :
      (Serial.codec.toTree s.serial).Pruned (fun path => gone ("serial" :: path)) serial := by
    have horder : [("speed", Tree.float), ("port", .text "/dev/ttyUSB1")].Perm
        ([("port", .text "/dev/ttyUSB1")] ++ [("speed", .float)]) := .swap _ _ _
    refine .table rfl ?_ (by decide) horder
    intro key t t' ht ht'
    cases List.mem_singleton.mp ht'
    obtain rfl : t = Codec.text.toTree s.serial.port := by simpa [Slot.of] using ht
    exact .leaf nofun
  have hpacing :
      (Pacing.codec.toTree s.pacing).Pruned (fun path => gone ("sequencer" :: path)) sequencer := by
    have horder : [("on_timeout", Tree.text "retry_once")].Perm
        ([("on_timeout", .text "retry_once")] ++ []) := .refl _
    refine .table rfl ?_ (by decide) horder
    intro key t t' ht ht'
    cases List.mem_singleton.mp ht'
    obtain rfl : t = .text s.pacing.onTimeout.key := by simpa [Slot.of, Codec.choice] using ht
    exact .leaf nofun
  have hpruned : (codec.toTree s).Pruned gone t := by
    have horder : [("serial", serial), ("comment", .null), ("sequencer", sequencer)].Perm
        ([("serial", serial), ("sequencer", sequencer)] ++ [("comment", .null)]) :=
      (List.Perm.swap _ _ _).cons _
    refine .table rfl ?_ (by decide) horder
    intro key t t' ht ht'
    simp only [List.mem_cons, Prod.mk.injEq, List.not_mem_nil, or_false] at ht'
    rcases ht' with ⟨rfl, rfl⟩ | ⟨rfl, rfl⟩
    · obtain rfl : t = Serial.codec.toTree s.serial := by simpa [Slot.of] using ht
      exact hserial
    · obtain rfl : t = Pacing.codec.toTree s.pacing := by simpa [Slot.of] using ht
      exact hpacing
  exact ⟨hpruned, (codec_round_trip jsonDialect s).2.2.1 gone t hpruned⟩

end Settings

end ModemBench
