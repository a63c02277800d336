import ModemBench.Settings.LogFilter.Pattern
import ModemBench.Text.Blank
import ModemBench.Text.Numeral
/-!
Directives of a log filter: a level, a target, a span in brackets with fields in braces, and an
equals sign with the level. Places in a directive are counted in bytes from its first character
that is not white space, but parts are cut from the directive as it stands.
-/

namespace ModemBench

namespace LogFilter

/-- How much is let through: all that is at least as grave. -/
inductive Threshold where
  | off
  | error
  | warn
  | info
  | debug
  | trace
deriving Repr, DecidableEq

namespace Threshold

/-- From the fewest notes to the most. -/
def all : List Threshold := [off, error, warn, info, debug, trace]

def name : Threshold → String
  | off => "off"
  | error => "error"
  | warn => "warn"
  | info => "info"
  | debug => "debug"
  | trace => "trace"

/-- A threshold by name, in any letter case, or by number. -/
def ofText? (cs : List Char) : Option Threshold :=
  match Text.numeral? 5 (String.ofList cs) with
  | some n => all[n]?
  | none => all.find? fun t => t.name.toList = cs.map Char.toLower

end Threshold

/-- Spans are never there, so what is asked of them is only kept apart. A field may be asked for
by its name alone, or with a pattern for its value. -/
structure Directive where
  threshold : Threshold := .trace
  target : Option String := none
  span : Option String := none
  fields : List (String × Bool) := []
deriving Repr, DecidableEq, Inhabited

/-- What is wrong with a directive. A cut inside a character is worse than a directive that
cannot be read: it stops the program. -/
inductive Fault where
  | malformed
  | cutCharacter
deriving Repr, DecidableEq

/-- Where a reader stands, with the place where the part being read began. -/
inductive Spot where
  | start
  | target (begun : Nat)
  | span (begun : Nat)
  | field (begun : Nat)
  | fields
  | spanned
  | level (begun : Nat)
deriving Repr, DecidableEq

/-- What is left after so many bytes. -/
def after? : Nat → List Char → Option (List Char)
  | 0, cs => some cs
  | _ + 1, [] => none
  | n, c :: rest => if c.utf8Size ≤ n then after? (n - c.utf8Size) rest else none

/-- So many bytes from the front. -/
def front? : Nat → List Char → Option (List Char)
  | 0, _ => some []
  | _ + 1, [] => none
  | n, c :: rest => if c.utf8Size ≤ n then (front? (n - c.utf8Size) rest).map (c :: ·) else none

def cut (directive : List Char) (first last : Nat) : Except Fault (List Char) :=
  match (after? first directive).bind (front? (last - first)) with
  | some part => .ok part
  | none => .error .cutCharacter

def cutRest (directive : List Char) (first : Nat) : Except Fault (List Char) :=
  match after? first directive with
  | some part => .ok part
  | none => .error .cutCharacter

def opens (c : Char) : Bool :=
  Text.isAlphanumeric c || ['-', ':', '_'].contains c

/-- A field is a name, or a name and a pattern for its value. What stands behind a second equals
sign is not looked at. -/
def field? (cs : List Char) : Option (String × Bool) :=
  let name := String.ofList (cs.takeWhile (· != '='))
  match cs.dropWhile (· != '=') with
  | [] => if cs.isEmpty then none else some (name, false)
  | _ :: value =>
    if Pattern.isValid (value.takeWhile (· != '=')) then some (name, true) else none

/-- One more character, at a place, for what has been found so far. -/
def advance (text : List Char) (spot : Spot) (place : Nat) (c : Char) (d : Directive) :
    Except Fault (Spot × Directive) :=
  match spot with
  | .start =>
    if c = '[' then .ok (.span (place + 1), d)
    else if opens c then .ok (.target place, d)
    else .error .malformed
  | .target begun =>
    if c = '=' then do
      let name := String.ofList (← cut text begun place)
      .ok (.level (place + 1), { d with target := some name })
    else if c = '[' then do
      let name := String.ofList (← cut text begun place)
      .ok (.span (place + 1), { d with target := some name })
    else .ok (spot, d)
  | .span begun =>
    if c = ']' then do
      .ok (.spanned, { d with span := some (String.ofList (← cut text begun place)) })
    else if c = '\x7b' then do
      let name := String.ofList (← cut text begun place)
      .ok (.field (place + 1), { d with span := if name.isEmpty then none else some name })
    else .ok (spot, d)
  | .field begun =>
    if c = '\x7d' then do
      match field? (← cut text begun place) with
      | some field => .ok (.fields, { d with fields := d.fields ++ [field] })
      | none => .error .malformed
    else .ok (spot, d)
  | .fields => if c = ']' then .ok (.spanned, d) else .error .malformed
  | .spanned => if c = '=' then .ok (.level (place + 1), d) else .error .malformed
  | .level _ => .ok (spot, d)

/-- The end of a directive. Its last part has to be whole. What could be a level is one, and
where none is given everything is let through. -/
def finish (text : List Char) (spot : Spot) (d : Directive) : Except Fault Directive :=
  match spot with
  | .target begun => do
    let last ← cutRest text begun
    match Threshold.ofText? last with
    | some threshold => .ok { d with threshold }
    | none => .ok { d with target := some (String.ofList last) }
  | .level begun => do
    let last ← cutRest text begun
    if last.isEmpty then .ok d
    else match Threshold.ofText? last with
      | some threshold => .ok { d with threshold }
      | none => .error .malformed
  | .spanned => .ok d
  | .start | .span _ | .field _ | .fields => .error .malformed

def walk (text : List Char) (spot : Spot) (place : Nat) (d : Directive) :
    List Char → Except Fault Directive
  | [] => finish text spot d
  | c :: rest => do
    let (spot, d) ← advance text spot place c d
    walk text spot (place + c.utf8Size) d rest

def Directive.read (text : List Char) : Except Fault Directive :=
  walk text .start 0 {} (Text.trimmed text)

end LogFilter

end ModemBench
