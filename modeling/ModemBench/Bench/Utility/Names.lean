/-!
How names are told of: in quotes where they are not plain, so that a shell could read them again.
-/

namespace ModemBench.Utility

def isPrintable (c : Char) : Bool := ' ' ≤ c && c ≤ '~'

/-- Whether a character of a name means something to a shell. -/
def isMeant (first alone : Bool) (c : Char) : Bool :=
  if c = '\x7b' ∨ c = '\x7d' then alone
  else if c = '#' ∨ c = '~' then first
  else " !\"$&()*;<=>[^\x60|?\\\x27".toList.contains c || !isPrintable c

/-- Whether double quotes could be put around a character. -/
def isMild (c : Char) : Bool :=
  c.isAlphanum || " \x27%+,-./:]_".toList.contains c

/-- Up to three octal digits, or a letter, for a character that cannot be printed. -/
def escaped (c : Char) : List Char :=
  let n := c.toNat
  match "\x07\x08\x0c\n\r\t\x0b".toList.idxOf? c with
  | some i => ['\\', "abfnrtv".toList.getD i 'n']
  | none => '\\' :: [n / 64 % 8, n / 8 % 8, n % 8].map fun d => Char.ofNat ('0'.toNat + d)

/-- The rest of a name in quotes, up to the last one. What cannot be printed stands in quotes of its
own, where this is now if `strange`. -/
def inQuotes (strange : Bool) : List Char → List Char
  | [] => ['\x27']
  | c :: rest =>
    if isPrintable c then
      (if strange then "\x27\x27".toList else []) ++
        (if c = '\x27' then "\x27\\\x27\x27".toList else [c]) ++ inQuotes false rest
    else (if strange then [] else "\x27$\x27".toList) ++ escaped c ++ inQuotes true rest

def inEitherQuotes (cs : List Char) : String :=
  if cs.contains '\x27' ∧ cs.all isMild then "\"" ++ String.ofList cs ++ "\""
  else String.ofList ('\x27' :: inQuotes false cs)

/-- A name, in quotes in any case. -/
def quoted (name : String) : String := inEitherQuotes name.toList

/-- A name, in quotes if it has to be. -/
def shown (name : String) : String :=
  let cs := name.toList
  let isFirst := cs.head?.any (isMeant true (cs.length = 1))
  if cs.isEmpty ∨ isFirst ∨ cs.tail.any (isMeant false false) then inEitherQuotes cs else name

end ModemBench.Utility
