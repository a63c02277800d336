import ModemBench.Settings.Basic
import ModemBench.Tree.Codec
/-!
The settings as a value tree: the keys of each section, in order, and the names of its choices.
-/

namespace ModemBench

def DataBits.key : DataBits → String
  | seven => "seven"
  | eight => "eight"

def Parity.key : Parity → String
  | none => "none"
  | odd => "odd"
  | even => "even"

def StopBits.key : StopBits → String
  | one => "one"
  | two => "two"

def FlowControl.key : FlowControl → String
  | none => "none"
  | software => "software"
  | hardware => "hardware"

def Security.key : Security → String
  | openNetwork => "open"
  | wpa2 => "wpa2"

def TimeoutPolicy.key : TimeoutPolicy → String
  | abort => "abort"
  | retryOnce => "retry_once"

def LogFormat.key : LogFormat → String
  | json => "json"
  | pretty => "pretty"
  | compact => "compact"

def Serial.codec : Codec Serial := .record {} [
  .of "port" .text Serial.port fun v s => { s with port := v },
  .of "baud" .u32 Serial.baud fun v s => { s with baud := v },
  .of "read_timeout_ms" .u64 Serial.readTimeout fun v s => { s with readTimeout := v },
  .of "data_bits" (.choice [.seven, .eight] DataBits.key) Serial.dataBits
    fun v s => { s with dataBits := v },
  .of "parity" (.choice [.none, .odd, .even] Parity.key) Serial.parity
    fun v s => { s with parity := v },
  .of "stop_bits" (.choice [.one, .two] StopBits.key) Serial.stopBits
    fun v s => { s with stopBits := v },
  .of "flow_control" (.choice [.none, .software, .hardware] FlowControl.key) Serial.flowControl
    fun v s => { s with flowControl := v }]

def Parameters.codec : Codec Parameters := .record {} [
  .of "ssid" .text Parameters.ssid fun v p => { p with ssid := v },
  .of "country" .text Parameters.country fun v p => { p with country := v },
  .of "security" (.choice [.openNetwork, .wpa2] Security.key) Parameters.security
    fun v p => { p with security := v },
  .of "password" .text Parameters.password fun v p => { p with password := v },
  .of "tx_power" .u8 Parameters.txPower fun v p => { p with txPower := v },
  .of "dhcp" .bool Parameters.dhcp fun v p => { p with dhcp := v },
  .of "static_ip" .text Parameters.staticIp fun v p => { p with staticIp := v },
  .of "remote_ip" .text Parameters.remoteIp fun v p => { p with remoteIp := v },
  .of "count" .u32 Parameters.count fun v p => { p with count := v },
  .of "interval_ms" .u32 Parameters.interval fun v p => { p with interval := v }]

def Pacing.codec : Codec Pacing := .record {} [
  .of "response_timeout_ms" .u64 Pacing.responseTimeout fun v p => { p with responseTimeout := v },
  .of "inter_command_delay_ms" .u64 Pacing.interCommandDelay
    fun v p => { p with interCommandDelay := v },
  .of "on_timeout" (.choice [.abort, .retryOnce] TimeoutPolicy.key) Pacing.onTimeout
    fun v p => { p with onTimeout := v }]

def Logging.codec : Codec Logging := .record {} [
  .of "verbose" .bool Logging.verbose fun v l => { l with verbose := v },
  .of "level" .text Logging.level fun v l => { l with level := v },
  .of "format" (.choice [.json, .pretty, .compact] LogFormat.key) Logging.format
    fun v l => { l with format := v }]

/-- The steps before the link is opened are a section of one field. -/
def preparationCodec : Codec (List (List String)) := .record [] [
  .of "commands" (.list (.list .text)) id fun v _ => v]

def Settings.codec : Codec Settings := .record {} [
  .of "serial" Serial.codec Settings.serial fun v s => { s with serial := v },
  .of "parameters" Parameters.codec Settings.parameters fun v s => { s with parameters := v },
  .of "sequencer" Pacing.codec Settings.pacing fun v s => { s with pacing := v },
  .of "logging" Logging.codec Settings.logging fun v s => { s with logging := v },
  .of "provision" preparationCodec Settings.preparation fun v s => { s with preparation := v }]

end ModemBench
