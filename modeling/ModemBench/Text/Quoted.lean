import ModemBench.Text.Visible
/-!
Text shown in messages. `quoted` puts a text between double quotes with every character that has
no visible form of its own escaped; `escaped` does the same without the quotes around it, escapes
both kinds of quote, and leaves a joining mark alone unless it comes first.
-/

namespace ModemBench.Text

/-- `\u` and the code point in braces, in lower-case hexadecimal. -/
def codePoint (c : Char) : List Char :=
  ['\\', 'u', '\x7b'] ++ Nat.toDigits 16 c.toNat ++ ['\x7d']

/-- `single` says whether an apostrophe is escaped, `joining` whether a joining mark is. -/
def escape (single joining : Bool) (c : Char) : List Char :=
  if c = '\x00' then ['\\', '0']
  else if c = '\t' then ['\\', 't']
  else if c = '\r' then ['\\', 'r']
  else if c = '\n' then ['\\', 'n']
  else if c = '\\' then ['\\', '\\']
  else if c = '"' then ['\\', '"']
  else if c = '\x27' ∧ single then ['\\', c]
  else if joining && isJoining c then codePoint c
  else if isVisible c then [c]
  else codePoint c

def quoted (s : String) : String :=
  String.ofList ('"' :: s.toList.flatMap (escape false true) ++ ['"'])

def escaped (s : String) : String :=
  match s.toList with
  | [] => ""
  | c :: rest => String.ofList (escape true true c ++ rest.flatMap (escape true false))

end ModemBench.Text
