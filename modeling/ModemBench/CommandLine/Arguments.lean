import ModemBench.Text.Numeral
/-!
The command line: options in any place, a family and a case. Options are read from the left; the
first that asks for help or the version is answered before anything behind it is looked at.
-/

namespace ModemBench.CommandLine

structure Arguments where
  family : Option Nat := none
  case? : Option Nat := none
  config : Option String := none
  port : Option String := none
  baud : Option Nat := none
  verbose : Bool := false
  json : Bool := false
  dryRun : Bool := false
  list : Bool := false
deriving Repr, DecidableEq

/-- What a command line asks for. -/
inductive Invocation where
  | run (arguments : Arguments)
  | help (long : Bool)
  | version
  | refused
deriving Repr, DecidableEq

/-- Options without a value. -/
inductive Switch where
  | verbose
  | json
  | dryRun
  | list
  | help (long : Bool)
  | version
deriving Repr, DecidableEq

/-- Options with a value. -/
inductive Setting where
  | config
  | port
  | baud
deriving Repr, DecidableEq

abbrev Choice := Switch ⊕ Setting

def long? (name : String) : Option Choice :=
  if name = "verbose" then some (.inl .verbose)
  else if name = "json" then some (.inl .json)
  else if name = "dry-run" then some (.inl .dryRun)
  else if name = "list" then some (.inl .list)
  else if name = "help" then some (.inl (.help true))
  else if name = "version" then some (.inl .version)
  else if name = "config" then some (.inr .config)
  else if name = "port" then some (.inr .port)
  else if name = "baud" then some (.inr .baud)
  else none

def short? (c : Char) : Option Choice :=
  if c = 'v' then some (.inl .verbose)
  else if c = 'h' then some (.inl (.help false))
  else if c = 'V' then some (.inl .version)
  else if c = 'c' then some (.inr .config)
  else none

/-- A whole number from zero to the largest 32-bit word. Minus zero is zero. -/
def word? (s : String) : Option Nat :=
  match s.toList with
  | '-' :: rest => (Text.digits? rest).filter (· = 0)
  | _ => Text.numeral? 4294967295 s

namespace Arguments

def raise (field : Bool) (a : Arguments) : Except Invocation Arguments :=
  if field then .error .refused else .ok a

/-- Turns a switch on, which may be done once. -/
def turnOn (a : Arguments) : Switch → Except Invocation Arguments
  | .verbose => raise a.verbose { a with verbose := true }
  | .json => raise a.json { a with json := true }
  | .dryRun => raise a.dryRun { a with dryRun := true }
  | .list => raise a.list { a with list := true }
  | .help long => .error (.help long)
  | .version => .error .version

/-- Gives a setting its value, which may be done once. -/
def assign (a : Arguments) (setting : Setting) (value : String) : Except Invocation Arguments :=
  match setting with
  | .config => raise (a.config.isSome || value.isEmpty) { a with config := some value }
  | .port => raise a.port.isSome { a with port := some value }
  | .baud =>
    match word? value with
    | some n => raise a.baud.isSome { a with baud := some n }
    | none => .error .refused

/-- Takes the next word that is no option. -/
def place (a : Arguments) (value : String) : Except Invocation Arguments :=
  match word? value, a.family, a.case? with
  | some n, none, _ => .ok { a with family := some n }
  | some n, some _, none => .ok { a with case? := some n }
  | _, _, _ => .error .refused

def finish (a : Arguments) : Except Invocation Arguments :=
  if a.family.isNone && !a.list then .error .refused else .ok a

end Arguments

/-- Whether a word is an option rather than a value. A lone dash is a value. -/
def isOption (word : String) : Bool :=
  match word.toList with
  | '-' :: _ :: _ => true
  | _ => false

/-- The options of a cluster behind one dash; the last may still want its value. -/
def cluster (a : Arguments) : List Char → Except Invocation (Arguments × Option Setting)
  | [] => .ok (a, none)
  | c :: rest =>
    match short? c with
    | none => .error .refused
    | some (.inl switch) => do cluster (← a.turnOn switch) rest
    | some (.inr setting) =>
      match rest with
      | [] => .ok (a, some setting)
      | '=' :: value => (a.assign setting (String.ofList value)).map (·, none)
      | value => (a.assign setting (String.ofList value)).map (·, none)

/-- A long option, with a value behind an equals sign if there is one. -/
def longOption (a : Arguments) (cs : List Char) :
    Except Invocation (Arguments × Option Setting) :=
  let name := String.ofList (cs.takeWhile (· != '='))
  let value := match cs.dropWhile (· != '=') with
    | [] => none
    | _ :: value => some (String.ofList value)
  match long? name, value with
  | some (.inl switch), none => (a.turnOn switch).map (·, none)
  | some (.inr setting), none => .ok (a, some setting)
  | some (.inr setting), some value => (a.assign setting value).map (·, none)
  | some (.inl _), some _ | none, _ => .error .refused

def option (a : Arguments) (word : String) : Except Invocation (Arguments × Option Setting) :=
  match word.toList with
  | '-' :: '-' :: cs => longOption a cs
  | '-' :: c :: cs => cluster a (c :: cs)
  | _ => (a.place word).map (·, none)

/-- Reads words from the left. Behind two dashes there are no more options. -/
def read (a : Arguments) : List String → Except Invocation Arguments
  | [] => a.finish
  | word :: rest =>
    if word = "--" then do (← rest.foldlM Arguments.place a).finish
    else
      match option a word with
      | .error e => .error e
      | .ok (a, none) => read a rest
      | .ok (a, some setting) =>
        match rest with
        | [] => .error .refused
        | value :: rest =>
          if isOption value then .error .refused
          else match a.assign setting value with
            | .error e => .error e
            | .ok a => read a rest

def invocation (words : List String) : Invocation :=
  match read {} words with
  | .ok arguments => .run arguments
  | .error invocation => invocation

end ModemBench.CommandLine
