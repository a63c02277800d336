import ModemBench.Text.Utf8
/-!
Raw text: bytes held as characters, each by the character of its number. Programs that know
nothing of characters work on such text.
-/

namespace ModemBench.Text.Raw

def ofBytes (bytes : Bytes) : List Char := bytes.map fun b => Char.ofNat b.toNat

def toBytes (cs : List Char) : Bytes := cs.map fun c => c.toNat.toUInt8

def ofText (s : String) : String := String.ofList (ofBytes (encode s))

def toText (s : String) : String := decode (toBytes s.toList)

end ModemBench.Text.Raw
