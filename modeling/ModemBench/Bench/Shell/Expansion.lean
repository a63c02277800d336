import ModemBench.Bench.Shell.Basic
import ModemBench.Bench.Shell.Field
import ModemBench.Bench.Shell.Sum
/-!
What the words of a script stand for: parameters, the output of commands, sums and home folders are
put in, then a word falls into fields, and those that are patterns give the paths they fit.
-/

namespace ModemBench.Shell

open Script (Piece Use Word)

/-- Runs a command in a process of its own, and gives what it printed. -/
abbrev Capture := Script.Command → Act String

/-- The letters of the options that are on, in the order in which they are told. -/
def optionLetters (sh : Shell) : String :=
  String.ofList ("pubaCEVvxsnmiIfe".toList.filter sh.isSet)

/-- All arguments as one text, with the first separator between them. -/
def allArguments (sh : Shell) : String :=
  (String.ofList (sh.separators.take 1)).intercalate sh.arguments

/-- What a parameter stands for, if it is there. -/
def parameter? (sh : Shell) (name : String) : Option String :=
  if name = "?" then some (toString sh.status)
  else if name = "$" then some (toString sh.main)
  else if name = "#" then some (toString sh.arguments.length)
  else if name = "-" then some sh.optionLetters
  else if name = "!" then sh.last.map toString
  else if name = "@" ∨ name = "*" then some sh.allArguments
  else match name.toNat? with
    | some 0 => some sh.name
    | some (n + 1) => sh.arguments[n]?
    | none => sh.value? name

/-- The home folder of a user, or that of the variable where no user is named. -/
def homeOf? (sh : Shell) (user : List Char) : Option String :=
  if user.isEmpty then sh.value? "HOME"
  else if user = "root".toList then some "/root"
  else none

/-- A text with the home folder in place of a tilde at its front, where `last` says whether the
word ends with it. -/
def homePieces (sh : Shell) (last : Bool) (cs : List Char) : List Piece :=
  match cs with
  | '~' :: rest =>
    let user := rest.takeWhile (· != '/')
    let left := rest.drop user.length
    match if left.isEmpty ∧ !last then none else sh.homeOf? user with
    | some "" => [.text false left]
    | some home => [.text true home.toList, .text false left]
    | none => [.text false cs]
  | _ => [.text false cs]

/-- A text that may have tildes behind colons, too. -/
def homesPieces (sh : Shell) (last : Bool) (cs : List Char) : List Piece :=
  let parts := (String.ofList cs).splitOn ":"
  let count := parts.length
  let pieces := parts.zipIdx.map fun (part, i) =>
    sh.homePieces (last || i + 1 < count) part.toList
  (pieces.intersperse [.text false [':']]).flatten

/-- Puts home folders into a word: at its front, or in all parts of a list with colons. -/
def withHomes (sh : Shell) (colons : Bool) (w : Word) : Word :=
  match w with
  | .text false cs :: rest =>
    if colons then homesPieces sh rest.isEmpty cs ++ rest.flatMap fun piece =>
      match piece with
      | .text false (':' :: ds) => homesPieces sh true (':' :: ds)
      | _ => [piece]
    else sh.homePieces rest.isEmpty cs ++ rest
  | _ => w

/-- How words are read: whether arguments stay apart, and whether the text in them may have
separators. -/
structure Manner where
  apart : Bool := true
  loose : Bool := false

/-- A value that is put in. -/
def putIn (quoted : Bool) (text : String) : List Mark :=
  Mark.characters quoted (!quoted) text.toList

/-- All arguments, put in by `@` or `*`. Those in quotes stay apart if the word may have fields;
others are as if they had the first separator between them. -/
def argumentMarks (sh : Shell) (m : Manner) (name : String) (quoted : Bool) : List Mark :=
  if quoted ∧ name = "@" ∧ m.apart then
    let each := sh.arguments.map fun text => .field :: putIn true text
    (each.intersperse [.cut]).flatten
  else if quoted ∨ !m.apart then putIn quoted sh.allArguments
  else
    let between := match sh.separators with
      | [] => '\x00'
      | c :: _ => c
    (sh.arguments.map (putIn false)).intersperse [.char between false true] |>.flatten

/-- A text without the line ends behind it, and without what cannot be in a text. -/
def withoutEnd (text : String) : String :=
  let cs := text.toList.filter (· ≠ '\x00')
  String.ofList (cs.reverse.dropWhile (· == '\n')).reverse

def unset (name message : String) : Act String := Act.refuse (name ++ ": " ++ message)

/-- What a parameter stands for where it has to be there if the shell is strict about that. -/
def strictValue (name : String) : Act String := do
  let sh ← get
  match sh.parameter? name with
  | some text => return text
  | none => if sh.isSet 'u' then unset name "parameter not set" else return ""

/-- The value of a sum. Variables that it sets are set. -/
def sumValue (expression : String) : Act String := do
  let sh ← get
  match Sum.evaluate sh.value? expression with
  | .error e => Act.refuse (e.message expression)
  | .ok (n, set) =>
    for (name, value) in set.reverse do
      Act.assign name (toString value.toInt)
    return toString n.toInt

/-- What the pieces of a word stand for. -/
def marks (capture : Capture) : (fuel : Nat) → Manner → List Piece → Act (List Mark)
  | 0, _, _ => return []
  | _ + 1, _, [] => return []
  | fuel + 1, m, piece :: rest => do
    let text (w : Word) : Act String := do
      let sh ← get
      return Mark.text (← marks capture fuel { apart := false } (sh.withHomes false w))
    let here ← match piece with
      | .text true cs => pure (.field :: Mark.characters true false cs)
      | .text false cs => pure (Mark.characters false m.loose cs)
      | .output c quoted => do
        let found ← capture c
        pure (putIn quoted (withoutEnd found))
      | .sum expression quoted => do
        pure (putIn quoted (← sumValue (← text expression)))
      | .param name use quoted => do
        let sh ← get
        let value? := sh.parameter? name
        let present (nullCounts : Bool) : Bool :=
          value?.any fun value => !nullCounts || value ≠ ""
        let plain : List Mark :=
          if name = "@" ∨ name = "*" then argumentMarks sh m name quoted
          else putIn quoted (value?.getD "")
        let inside (w : Word) : Act (List Mark) := do
          let sh ← get
          marks capture fuel { m with loose := !quoted } (sh.withHomes false w)
        match use with
        | .unknown => Act.refuse "Bad substitution"
        | .plain => do
          let _ ← strictValue name
          pure plain
        | .length => do
          let value ← strictValue name
          pure (putIn quoted (toString value.length))
        | .instead nullCounts w => if present nullCounts then pure plain else inside w
        | .alternative nullCounts w => if present nullCounts then inside w else pure []
        | .demand nullCounts w =>
          if present nullCounts then pure plain
          else do
            let usual := "parameter not set" ++ if nullCounts then " or null" else ""
            let message ← if w.isEmpty then pure usual else text w
            pure (putIn quoted (← unset name message))
        | .assign nullCounts w =>
          if present nullCounts then pure plain
          else do
            let value ← text w
            if !Script.isName name.toList then Act.refuse (name ++ ": bad variable name")
            Act.assign name value
            pure (putIn quoted value)
        | .trim front longest w => do
          let value ← strictValue name
          let pattern := Mark.pattern (← marks capture fuel { apart := false } w)
          let cut := if front then Glob.cutFront else Glob.cutEnd
          pure (putIn quoted (String.ofList (cut pattern longest value.toList)))
    let edge := match piece with
      | .text _ _ => []
      | .param .. | .output .. | .sum .. => [Mark.edge]
    return here ++ edge ++ (← marks capture fuel m rest)

/-- No word has this many pieces. -/
def pieces : Nat := 1000000

/-- The fields of a word. -/
def expand (capture : Capture) (w : Word) : Act (List String) := do
  let sh ← get
  let found ← marks capture pieces {} (sh.withHomes false w)
  let sh ← get
  let patterns := fields (.ofList sh.separators) none found
  if sh.isSet 'f' then return patterns.map fun p => String.ofList (Glob.text p)
  return patterns.flatMap (Glob.expand sh.job)

def expandAll (capture : Capture) (words : List Word) : Act (List String) := do
  return (← words.mapM (expand capture)).flatten

/-- What a word stands for as one text. -/
def expandText (capture : Capture) (w : Word) : Act String := do
  let sh ← get
  return Mark.text (← marks capture pieces { apart := false } (sh.withHomes false w))

/-- What a variable is set to. -/
def expandSetting (capture : Capture) (w : Word) : Act String := do
  let sh ← get
  return Mark.text (← marks capture pieces { apart := false } (sh.withHomes true w))

/-- A text in the script, in which nothing is special but what is put in. -/
def expandDocument (capture : Capture) (w : Word) : Act String := do
  return Mark.text (← marks capture pieces { apart := false } w)

def expandPattern (capture : Capture) (w : Word) : Act Glob.Pattern := do
  let sh ← get
  return Mark.pattern (← marks capture pieces { apart := false } (sh.withHomes false w))

end ModemBench.Shell
