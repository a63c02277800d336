import ModemBench.Text.Utf8
/-!
Replies and the verdict they carry. A command is settled as soon as its reply holds one of the
two terminal tokens, wherever in the reply that is; success is looked for first.
-/

namespace ModemBench

inductive Verdict where
  | success
  | failure
deriving Repr, DecidableEq

namespace Verdict

/-- `OK` and the end of the line. -/
def successToken : Bytes := [0x4F, 0x4B, 0x0D, 0x0A]

/-- `ERROR` and the end of the line. -/
def failureToken : Bytes := [0x45, 0x52, 0x52, 0x4F, 0x52, 0x0D, 0x0A]

/-- Whether `token` stands somewhere in the bytes. -/
def holds (token : Bytes) : Bytes → Bool
  | [] => token.isEmpty
  | b :: rest => token.isPrefixOf (b :: rest) || holds token rest

@[simp] theorem holds_iff (token bytes : Bytes) : holds token bytes = true ↔ token <:+: bytes := by
  induction bytes with
  | nil => cases token <;> simp [holds]
  | cons b rest ih => simp [holds, ih, List.infix_cons_iff]

/-- The verdict of a reply, once it holds a terminal token. -/
def of? (reply : Bytes) : Option Verdict :=
  if holds successToken reply then some .success
  else if holds failureToken reply then some .failure
  else none

end Verdict

end ModemBench
