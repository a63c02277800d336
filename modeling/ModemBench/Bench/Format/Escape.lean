/-!
Backslash sequences in texts that are printed.
-/

namespace ModemBench.Format

def isOctal (c : Char) : Bool := '0' ≤ c && c ≤ '7'

/-- The character of up to so many octal digits, and what follows them. -/
def octal (most : Nat) (cs : List Char) : Char × List Char :=
  let digits := (cs.take most).takeWhile isOctal
  let value := digits.foldl (fun n c => n * 8 + (c.toNat - '0'.toNat)) 0
  (Char.ofNat (value % 256), cs.drop digits.length)

/-- What a backslash stands for with what is behind it. It stands for itself where that means
nothing. -/
def escape (cs : List Char) : Char × List Char :=
  match cs with
  | [] => ('\\', [])
  | c :: rest =>
    if isOctal c then octal 3 cs
    else match "\\abefnrtv".toList.idxOf? c with
      | some i => ("\\\x07\x08\x1b\x0c\n\r\t\x0b".toList.getD i c, rest)
      | none => ('\\', cs)

/-- A text with its backslash sequences read, and whether one of them ends all printing. -/
def unescape : (fuel : Nat) → List Char → List Char × Bool
  | 0, _ | _ + 1, [] => ([], false)
  | fuel + 1, '\\' :: rest =>
    match rest with
    | 'c' :: _ => ([], true)
    | _ =>
      let (c, left) := match rest with
        | '0' :: d :: more => if isOctal d then octal 3 (d :: more) else escape rest
        | _ => escape rest
      let (cs, ended) := unescape fuel left
      (c :: cs, ended)
  | fuel + 1, c :: rest =>
    let (cs, ended) := unescape fuel rest
    (c :: cs, ended)

/-- Words with blanks between them and a line end, unless the first word asks for none. -/
def echo (words : List String) : String :=
  let (words, last) := match words with
    | "-n" :: words => (words, [])
    | _ => (words, ['\n'])
  let text := (" ".intercalate words).toList
  let (cs, ended) := unescape (text.length + 1) text
  String.ofList (if ended then cs else cs ++ last)

end ModemBench.Format
