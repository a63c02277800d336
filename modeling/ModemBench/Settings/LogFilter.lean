import ModemBench.Note
import ModemBench.Settings.Basic
import ModemBench.Settings.LogFilter.Directive
import ModemBench.Surroundings
/-!
Which notes are let through to the log. A filter is written as a list of directives with commas
between them. One from the environment counts if all of it is in order; in the one of the settings
a directive that cannot be read is passed over with a complaint. The most special of the rules
that fit a note decides about it.
-/

namespace ModemBench

namespace LogFilter

/-- What is let through of the notes that come from a target and have certain fields. -/
structure Rule where
  target : Option String := none
  fields : List String := []
  threshold : Threshold
deriving Repr, DecidableEq

/-- A directive is a rule for notes unless it asks for a span or for the value of a field. -/
def Directive.rule? (d : Directive) : Option Rule :=
  if d.span.isSome || d.fields.any (·.2) then none
  else some ⟨d.target, d.fields.map (·.1), d.threshold⟩

def Threshold.admits (t : Threshold) (l : Level) : Bool :=
  match l with
  | .error => t != .off
  | .warn => t == .warn || t == .info || t == .debug || t == .trace
  | .info => t == .info || t == .debug || t == .trace
  | .debug => t == .debug || t == .trace

/-- Longer targets first, then more fields; what is left is a matter of the letters. -/
def Rule.precedes (a b : Rule) : Bool :=
  let weight (r : Rule) := r.target.elim 0 fun target => target.utf8ByteSize + 1
  if weight a ≠ weight b then weight b < weight a
  else if a.fields.length ≠ b.fields.length then b.fields.length < a.fields.length
  else if a.target ≠ b.target then b.target.getD "" < a.target.getD ""
  else b.fields < a.fields

/-- Puts a rule in its place. Of two for the same notes the later one counts. -/
def Rule.insert (r : Rule) : List Rule → List Rule
  | [] => [r]
  | other :: rest =>
    if r.target = other.target ∧ r.fields = other.fields then r :: rest
    else if r.precedes other then r :: other :: rest
    else other :: r.insert rest

def Rule.fits (r : Rule) (n : Note) : Bool :=
  (r.target.all fun target => target.toList.isPrefixOf n.channel.path.toList) &&
    r.fields.all n.fieldNames.contains

def directives (filter : String) : List (List Char) :=
  ((filter.splitOn ",").filter (· ≠ "")).map String.toList

/-- All directives, or nothing if one of them cannot be read. -/
def strict? : List (List Char) → Except Fault (Option (List Directive))
  | [] => .ok (some [])
  | text :: rest =>
    match Directive.read text with
    | .ok d => do return (← strict? rest).map (d :: ·)
    | .error .malformed => .ok none
    | .error .cutCharacter => .error .cutCharacter

/-- The directives that can be read, and those that are passed over. -/
def sorted : List (List Char) → Except Fault (List Directive × List (List Char))
  | [] => .ok ([], [])
  | text :: rest =>
    match Directive.read text with
    | .ok d => do
      let (kept, passed) ← sorted rest
      return (d :: kept, passed)
    | .error .malformed => do
      let (kept, passed) ← sorted rest
      return (kept, text :: passed)
    | .error .cutCharacter => .error .cutCharacter

end LogFilter

/-- Rules in the order in which they are asked. -/
structure LogFilter where
  rules : List LogFilter.Rule := []
deriving Repr, DecidableEq, Inhabited

namespace LogFilter

def ofDirectives (ds : List Directive) : LogFilter :=
  ⟨(ds.filterMap Directive.rule?).foldl (fun rules r => r.insert rules) []⟩

/-- A note that no rule fits is not shown. -/
def shows (f : LogFilter) (n : Note) : Bool :=
  (f.rules.find? (·.fits n)).any (·.threshold.admits n.level)

end LogFilter

namespace Logging

/-- The filter of a run as text: a verbose one shows everything of its own. -/
def directive (logging : Logging) (verbose : Bool) : String :=
  let level := if verbose || logging.verbose then "debug" else logging.level
  "at_test_driver=" ++ level ++ ",at_test=" ++ level ++ ",warn"

/-- The filter of a run, and what is said about directives that are passed over. A filter of the
environment is asked for first, and replaces the one of the settings if it is in order. -/
def filter (logging : Logging) (around : Surroundings) :
    Except LogFilter.Fault (LogFilter × List String) := do
  let asked ← match around.env "RUST_LOG" with
    | some filter => LogFilter.strict? (LogFilter.directives filter)
    | none => pure none
  match asked with
  | some ds => return (LogFilter.ofDirectives ds, [])
  | none =>
    let (ds, passed) ← LogFilter.sorted (LogFilter.directives (logging.directive false))
    let complaints := passed.map fun d =>
      "ignoring `" ++ String.ofList d ++ "`: invalid filter directive"
    return (LogFilter.ofDirectives ds, complaints)

end Logging

end ModemBench
