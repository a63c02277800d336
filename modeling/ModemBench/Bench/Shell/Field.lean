import ModemBench.Bench.Shell.Glob
/-!
Fields. What a word stands for is a row of marks; where what was put in has separators, and between
arguments that stay apart, it falls into fields.
-/

namespace ModemBench.Shell

inductive Mark where
  /-- Where a character is `loose` it may separate fields. -/
  | char (c : Char) (quoted loose : Bool)
  /-- There is a field here, even if nothing else is. -/
  | field
  /-- A field ends here. -/
  | cut
  /-- What was put in ends here, and separators behind it are others. -/
  | edge
deriving Repr, DecidableEq

namespace Mark

def characters (quoted loose : Bool) (cs : List Char) : List Mark :=
  cs.map fun c => .char c quoted loose

def pattern (ms : List Mark) : Glob.Pattern :=
  ms.filterMap fun m => match m with
    | .char c quoted _ => some (c, quoted)
    | .field | .cut | .edge => none

def text (ms : List Mark) : String := String.ofList (Glob.text (pattern ms))

end Mark

/-- Separators that are blanks count as one where they are beside each other. -/
structure Separators where
  blanks : List Char
  others : List Char

def Separators.ofList (cs : List Char) : Separators :=
  let (blanks, others) := cs.partition " \t\n".toList.contains
  ⟨blanks, '\x00' :: others⟩

/-- What comes behind a separator and belongs to it: blanks, and one other separator if it was a
blank itself. -/
def Separators.rest (s : Separators) : (blank : Bool) → List Mark → List Mark
  | blank, .char c quoted true :: rest =>
    if s.blanks.contains c then s.rest blank rest
    else if blank ∧ s.others.contains c then s.rest false rest
    else .char c quoted true :: rest
  | _, ms => ms

theorem Separators.length_rest (s : Separators) (blank : Bool) (ms : List Mark) :
    (s.rest blank ms).length ≤ ms.length := by
  fun_induction Separators.rest s blank ms <;> simp_all <;> omega

/-- The fields among marks; `held` is the one begun, its last character first. -/
def fields (s : Separators) (held : Option Glob.Pattern) : List Mark → List Glob.Pattern
  | [] => (held.map List.reverse).toList
  | .field :: rest => fields s (some (held.getD [])) rest
  | .edge :: rest => fields s held rest
  | .cut :: rest => (held.map List.reverse).toList ++ fields s none rest
  | .char c quoted loose :: rest =>
    if loose ∧ s.blanks.contains c then
      match held with
      | none => fields s none rest
      | some cs => cs.reverse :: fields s none (s.rest true rest)
    else if loose ∧ s.others.contains c then
      (held.getD []).reverse :: fields s none (s.rest false rest)
    else fields s (some ((c, quoted) :: held.getD [])) rest
termination_by ms => ms.length
decreasing_by all_goals grind [Separators.length_rest]

end ModemBench.Shell
