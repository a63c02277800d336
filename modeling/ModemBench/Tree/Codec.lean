import ModemBench.Tree
/-!
Codecs between values and trees. A record reads each of its slots by key, keeps the starting
value of a slot that is missing and ignores keys it does not know.
-/

namespace ModemBench

structure Codec (α : Type) where
  toTree : α → Tree
  ofTree? : Tree.Dialect → Tree → Option α

namespace Codec

def text : Codec String where
  toTree := .text
  ofTree? _ t := match t with
    | .text s => some s
    | _ => none

def bool : Codec Bool where
  toTree := .bool
  ofTree? _ t := match t with
    | .bool b => some b
    | _ => none

/-- Whole numbers below `bound`. -/
def below (bound : Nat) {α : Type} (toNat : α → Nat) (ofNat : Nat → α) : Codec α where
  toTree a := .nat (toNat a)
  ofTree? _ t := match t with
    | .int n => if 0 ≤ n ∧ n < bound then some (ofNat n.toNat) else none
    | _ => none

def u8 : Codec UInt8 := below 256 UInt8.toNat UInt8.ofNat

def u32 : Codec UInt32 := below 4294967296 UInt32.toNat UInt32.ofNat

def u64 : Codec UInt64 := below 18446744073709551616 UInt64.toNat UInt64.ofNat

/-- One of a few named values: its name, or a table of one entry with the name for its key and
nothing in it. -/
def choice {α : Type} (all : List α) (name : α → String) : Codec α where
  toTree a := .text (name a)
  ofTree? dialect t := match t with
    | .text s => all.find? (name · == s)
    | .table [(s, content)] =>
      if dialect.contentless content then all.find? (name · == s) else none
    | _ => none

def list {α : Type} (item : Codec α) : Codec (List α) where
  toTree xs := .list (xs.map item.toTree)
  ofTree? dialect t := match t with
    | .list ts => ts.mapM (item.ofTree? dialect)
    | _ => none

end Codec

/-- One field of a record: its key, its tree, and how a tree is put in its place. -/
structure Slot (R : Type) where
  key : String
  toTree : R → Tree
  put? : Tree.Dialect → Tree → R → Option R

namespace Slot

def of {R α : Type} (key : String) (codec : Codec α) (get : R → α) (set : α → R → R) : Slot R where
  key := key
  toTree r := codec.toTree (get r)
  put? dialect t r := (codec.ofTree? dialect t).map (set · r)

/-- Fills the slots from a table. -/
def fill? {R : Type} (dialect : Tree.Dialect) (entries : List (String × Tree)) :
    List (Slot R) → R → Option R
  | [], r => some r
  | slot :: slots, r =>
    match entries.lookup slot.key with
    | none => fill? dialect entries slots r
    | some t => (slot.put? dialect t r).bind (fill? dialect entries slots)

/-- Fills the slots in order from a list of values. -/
def deal? {R : Type} (dialect : Tree.Dialect) : List (Slot R) → List Tree → R → Option R
  | _, [], r => some r
  | [], _ :: _, r => if dialect.surplus then some r else none
  | slot :: slots, t :: ts, r => (slot.put? dialect t r).bind (deal? dialect slots ts)

end Slot

/-- A record starts from `initial`. A moment counts as a table without a known key. -/
def Codec.record {R : Type} (initial : R) (slots : List (Slot R)) : Codec R where
  toTree r := .table (slots.map fun slot => (slot.key, slot.toTree r))
  ofTree? dialect t := match t with
    | .table entries => Slot.fill? dialect entries slots initial
    | .list items => Slot.deal? dialect slots items initial
    | .moment => some initial
    | _ => none

end ModemBench
