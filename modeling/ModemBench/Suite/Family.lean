import ModemBench.Suite.Template
/-!
The test families of the firmware: each has a table of cases, and some a sequence that is run
when no case is chosen.
-/

namespace ModemBench

inductive Family where
  | app
  | iot
  | sample
deriving Repr, DecidableEq

structure Case where
  name : String
  template : Template
deriving Repr, DecidableEq

namespace Suite

/-- How to join the network: the first fields of nearly every test. -/
def network : List Field :=
  [.ssid, .country, .security, .password, .txPower, .dhcp, .staticIp]

def remote : List Field := network ++ [.remoteIp]

def remoteCounted : List Field := network ++ [.remoteIp, .count]

def paced : List Field := network ++ [.count, .interval]

def remotePaced : List Field := network ++ [.remoteIp, .count, .interval]

def loop : List Field := [.count, .interval]

/-- The modem is the access point here, so its flag and address are fixed. -/
def accessPoint : List Field :=
  [.ssid, .country, .security, .password, .txPower, .literal "1", .literal "192.168.200.1", .count]

def appCases : List Case := [
  ⟨"softap", "TSOFTAP", accessPoint⟩,
  ⟨"fota", "TFOTA", network⟩,
  ⟨"tcp_server", "TTCP_SERVER", network⟩,
  ⟨"udp_server", "TUDP_SERVER", network⟩,
  ⟨"uart", "TUART", remote⟩,
  ⟨"i2c", "TI2C", loop⟩,
  ⟨"spi", "TSPI", loop⟩,
  ⟨"adc", "TADC", loop⟩,
  ⟨"pwm", "TPWM", loop⟩,
  ⟨"memory", "TMEMORY", loop⟩,
  ⟨"gpio", "TGPIO", loop⟩,
  ⟨"timer", "TTIMER", []⟩,
  ⟨"json", "TJSON", []⟩,
  ⟨"xml", "TXML", []⟩]

def appSequence : List Template := [
  ⟨"TWIFI_STATE", paced⟩,
  ⟨"TTCP_CLIENT", remoteCounted⟩,
  ⟨"TUDP_CLIENT", remoteCounted⟩,
  ⟨"THTTP", network⟩]

def iotCases : List Case := [⟨"coap_server", "TCOAP_SERVER", network⟩]

def iotSequence : List Template := [
  ⟨"TAWS", paced⟩,
  ⟨"TONEM2M", paced⟩,
  ⟨"TMQTT", paced⟩,
  ⟨"TCOAP_CLIENT", remotePaced⟩]

def sampleCases : List Case := [
  ⟨"aging_tcp_client", "TAGING_TC", remote⟩,
  ⟨"iperf_udp_client", "TIPERF_UC", remoteCounted⟩,
  ⟨"iperf_udp_server", "TIPERF_US", network⟩,
  ⟨"socket_client", "TSOCKET", remote⟩]

end Suite

namespace Family

def all : List Family := [app, iot, sample]

def ofIndex? (n : Nat) : Option Family := all[n]?

def index : Family → Nat
  | app => 0
  | iot => 1
  | sample => 2

def name : Family → String
  | app => "SAMPLE_APP_TEST"
  | iot => "SAMPLE_APP_IOT_TEST"
  | sample => "SAMPLE_TEST"

def cases : Family → List Case
  | app => Suite.appCases
  | iot => Suite.iotCases
  | sample => Suite.sampleCases

/-- What is run when no case is chosen; some families insist on a case. -/
def sequence? : Family → Option (List Template)
  | app => some Suite.appSequence
  | iot => some Suite.iotSequence
  | sample => none

def display (f : Family) : String :=
  s!"{f.index}:{f.name}"

/-- The family's name in a written plan. -/
def key : Family → String
  | app => "AppTest"
  | iot => "IotTest"
  | sample => "Sample"

end Family

end ModemBench
