import ModemBench.Suite.Catalogue
/-!
What the program says about itself.
-/

namespace ModemBench.CommandLine

def versionText : String := "at-test 0.1.0\n"

def usageLine : String := "Usage: at-test [OPTIONS] [FAMILY] [CASE]\n"

def helpText (long : Bool) : String :=
  if long then
    "Sends the selected test commands one at a time, waits for OK or ERROR after each, and " ++
    "stops at the first command that fails or times out.\n\n" ++ usageLine ++
    "\nArguments:\n" ++
    "  [FAMILY]\n          Test family index\n\n" ++
    "  [CASE]\n          Test case index within the family. " ++
    "Omit to run the family's full sequence\n" ++
    "\nOptions:\n" ++
    "  -c, --config <CONFIG>\n" ++
    "          Configuration file (defaults to the standard search path)\n\n" ++
    "  -v, --verbose\n          Echo every line sent and every chunk received\n\n" ++
    "      --port <PORT>\n          Serial device, overriding the configuration\n\n" ++
    "      --baud <BAUD>\n          Baud rate, overriding the configuration\n\n" ++
    "      --json\n          Print the run report as JSON on stdout\n\n" ++
    "      --dry-run\n          Print the resolved commands without opening the port\n\n" ++
    "      --list\n          List test families and cases, then exit\n\n" ++
    "  -h, --help\n          Print help (see a summary with '-h')\n\n" ++
    "  -V, --version\n          Print version\n\n" ++ Suite.catalogue
  else
    "Run AT-command self tests against a serial-attached Wi-Fi modem.\n\n" ++ usageLine ++
    "\nArguments:\n" ++
    "  [FAMILY]  Test family index\n" ++
    "  [CASE]    Test case index within the family. Omit to run the family's full sequence\n" ++
    "\nOptions:\n" ++
    "  -c, --config <CONFIG>  Configuration file (defaults to the standard search path)\n" ++
    "  -v, --verbose          Echo every line sent and every chunk received\n" ++
    "      --port <PORT>      Serial device, overriding the configuration\n" ++
    "      --baud <BAUD>      Baud rate, overriding the configuration\n" ++
    "      --json             Print the run report as JSON on stdout\n" ++
    "      --dry-run          Print the resolved commands without opening the port\n" ++
    "      --list             List test families and cases, then exit\n" ++
    "  -h, --help             Print help (see more with '--help')\n" ++
    "  -V, --version          Print version\n\n" ++ Suite.catalogue

end ModemBench.CommandLine
