/-!
Value trees: what a settings file or a report says once its notation is read away. A float and a
moment in time carry no value here, for nothing takes one.
-/

namespace ModemBench

inductive Tree where
  | null
  | bool (value : Bool)
  | int (value : Int)
  | float
  | text (value : String)
  | moment
  | list (items : List Tree)
  | table (entries : List (String × Tree))
deriving Repr, Inhabited

namespace Tree

def nat (n : Nat) : Tree := .int n

/-- How the notations that trees are read from differ. -/
structure Dialect where
  /-- A record may be written as a list of its values; may that list be longer than the record? -/
  surplus : Bool
  /-- What may stand after a tag that takes no content. -/
  contentless : Tree → Bool

end Tree

end ModemBench
