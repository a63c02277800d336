import ModemBench.Tree
/-!
Trees written as JSON over several lines, two blanks a level. Entries keep their order; an empty
list or table stays on one line.
-/

namespace ModemBench.Tree

def hexDigit (n : Nat) : Char :=
  if n < 10 then Char.ofNat (n + '0'.toNat) else Char.ofNat (n - 10 + 'a'.toNat)

/-- Quotes, backslashes and control characters are escaped, and nothing else. -/
def jsonChar (c : Char) : List Char :=
  if c = '"' then ['\\', '"']
  else if c = '\\' then ['\\', '\\']
  else if c = '\n' then ['\\', 'n']
  else if c = '\r' then ['\\', 'r']
  else if c = '\t' then ['\\', 't']
  else if c = '\x08' then ['\\', 'b']
  else if c = '\x0c' then ['\\', 'f']
  else if c.toNat < 0x20 then
    ['\\', 'u', '0', '0', hexDigit (c.toNat / 16), hexDigit (c.toNat % 16)]
  else [c]

def jsonText (s : String) : String :=
  String.ofList ('"' :: s.toList.flatMap jsonChar ++ ['"'])

def indent (depth : Nat) : String :=
  String.ofList (List.replicate (2 * depth) ' ')

/-- Written items between their brackets, one a line. -/
def block (opening closing : String) (depth : Nat) (items : List String) : String :=
  if items.isEmpty then opening ++ closing
  else
    let lines := items.map (indent (depth + 1) ++ ·)
    opening ++ "\n" ++ ",\n".intercalate lines ++ "\n" ++ indent depth ++ closing

mutual

def json (depth : Nat) : Tree → String
  | .null | .float | .moment => "null"
  | .bool b => if b then "true" else "false"
  | .int n => toString n
  | .text s => jsonText s
  | .list items => block "[" "]" depth (jsonItems (depth + 1) items)
  | .table entries => block "\x7b" "\x7d" depth (jsonEntries (depth + 1) entries)

def jsonItems (depth : Nat) : List Tree → List String
  | [] => []
  | t :: rest => json depth t :: jsonItems depth rest

def jsonEntries (depth : Nat) : List (String × Tree) → List String
  | [] => []
  | (key, t) :: rest => (jsonText key ++ ": " ++ json depth t) :: jsonEntries depth rest

end

end ModemBench.Tree
