/-!
Bytes and text. `encode` gives the bytes of a text. `decode` reads any bytes: each run of bytes
that begins a character without finishing it becomes one replacement character.
-/

namespace ModemBench

abbrev Bytes := List UInt8

namespace Text

def encode (s : String) : Bytes :=
  s.toList.flatMap String.utf8EncodeChar

/-- A character begun: the bits so far, the bytes owed, and the range of the next byte. -/
structure Begun where
  bits : Nat
  owed : Nat
  low : UInt8
  high : UInt8
deriving Repr, DecidableEq

/-- What a byte above ASCII begins. Overlong forms, surrogates and values past the last
character are ruled out by the range of the second byte. -/
def Begun.of? (b : UInt8) : Option Begun :=
  if 0xC2 ≤ b ∧ b ≤ 0xDF then some ⟨b.toNat - 0xC0, 1, 0x80, 0xBF⟩
  else if b = 0xE0 then some ⟨0, 2, 0xA0, 0xBF⟩
  else if b = 0xED then some ⟨0xD, 2, 0x80, 0x9F⟩
  else if 0xE1 ≤ b ∧ b ≤ 0xEF then some ⟨b.toNat - 0xE0, 2, 0x80, 0xBF⟩
  else if b = 0xF0 then some ⟨0, 3, 0x90, 0xBF⟩
  else if 0xF1 ≤ b ∧ b ≤ 0xF3 then some ⟨b.toNat - 0xF0, 3, 0x80, 0xBF⟩
  else if b = 0xF4 then some ⟨4, 3, 0x80, 0x8F⟩
  else none

def replacement : Char := '\uFFFD'

/-- A byte where a character may start. -/
def start (b : UInt8) : List Char × Option Begun :=
  if b < 0x80 then ([Char.ofNat b.toNat], none)
  else match Begun.of? b with
    | some p => ([], some p)
    | none => ([replacement], none)

/-- The characters settled by one more byte, and what is begun after it. -/
def step : Option Begun → UInt8 → List Char × Option Begun
  | none, b => start b
  | some p, b =>
    if p.low ≤ b ∧ b ≤ p.high then
      let bits := p.bits * 64 + (b.toNat - 0x80)
      if p.owed = 1 then ([Char.ofNat bits], none)
      else ([], some ⟨bits, p.owed - 1, 0x80, 0xBF⟩)
    else
      let (cs, next) := start b
      (replacement :: cs, next)

def chars : Option Begun → Bytes → List Char
  | none, [] => []
  | some _, [] => [replacement]
  | p, b :: rest =>
    let (cs, next) := step p b
    cs ++ chars next rest

def decode (bytes : Bytes) : String :=
  String.ofList (chars none bytes)

/-- The text whose bytes these are, if there is one. -/
def ofBytes? (bytes : Bytes) : Option String :=
  let text := decode bytes
  if encode text = bytes then some text else none

end Text

end ModemBench
