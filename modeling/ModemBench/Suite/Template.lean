import ModemBench.Command
import ModemBench.Settings.Basic
/-!
Command templates: `AT+NAME`, or `AT+NAME=` and the values of its fields with commas between
them. Nothing is escaped: the firmware counts commas, so the order of the fields is the contract.
-/

namespace ModemBench

inductive Field where
  | ssid
  | country
  | security
  | password
  | txPower
  | dhcp
  | staticIp
  | remoteIp
  | count
  | interval
  | literal (text : String)
deriving Repr, DecidableEq

/-- The number that the firmware knows a security mode by. -/
def Security.number : Security → String
  | openNetwork => "0"
  | wpa2 => "1"

def Field.render (p : Parameters) : Field → String
  | ssid => p.ssid
  | country => p.country
  | security => p.security.number
  | password => p.password
  | txPower => toString p.txPower.toNat
  | dhcp => if p.dhcp then "1" else "0"
  | staticIp => p.staticIp
  | remoteIp => p.remoteIp
  | count => toString p.count.toNat
  | interval => toString p.interval.toNat
  | literal text => text

structure Template where
  name : String
  fields : List Field
deriving Repr, DecidableEq

def Template.render (t : Template) (p : Parameters) : Command :=
  let head := "AT+" ++ t.name
  if t.fields.isEmpty then ⟨head⟩
  else ⟨head ++ "=" ++ ",".intercalate (t.fields.map (·.render p))⟩

end ModemBench
