import Mathlib
import ModemBench.Proofs.Composition
/-!
What it means to echo the traffic. A run that echoes it asks for the same in the same order as one
that does not, but for the notes that are the echo.
-/

namespace ModemBench

/-- Whether this is a note of raw traffic. -/
def Ask.echoes : Ask → Bool
  | note n => n.channel = .wire
  | _ => false

/-- Without the notes of raw traffic. -/
def Played.hushed {α σ : Type} (p : Played α σ) : Played α σ :=
  { p with exchanges := p.exchanges.filter (!·.question.echoes) }

namespace Dialogue

variable {α β : Type}

/-- The second dialogue is the first without its notes of raw traffic. -/
inductive Hushes : Dialogue α → Dialogue α → Prop where
  | done (a : α) : Hushes (.done a) (.done a)
  | halted (why : Halt) : Hushes (.halted why) (.halted why)
  | ask {q : Ask} {next next' : q.Answer → Dialogue α} (kept : q.echoes = false)
      (rest : ∀ answer, Hushes (next answer) (next' answer)) : Hushes (.ask q next) (.ask q next')
  | echo {n : Note} {next : Unit → Dialogue α} {d : Dialogue α} (echo : (Ask.note n).echoes = true)
      (rest : Hushes (next ()) d) : Hushes (.ask (.note n) next) d

theorem Hushes.bind {d d' : Dialogue α} {f f' : α → Dialogue β} (h : Hushes d d')
    (hf : ∀ a, Hushes (f a) (f' a)) : Hushes (d.bind f) (d'.bind f') := by
  induction h with
  | done a => exact hf a
  | halted why => exact .halted why
  | ask kept rest ih => exact .ask kept ih
  | echo echo rest ih => exact .echo echo ih

/-- In a world that takes no notice of notes both have the same course, but for the echo. -/
theorem Hushes.play {σ : Type} [World σ] (tacit : Tacit σ) {d d' : Dialogue α} (h : Hushes d d')
    (w : σ) : d'.play w = (d.play w).hushed := by
  induction h generalizing w with
  | done | halted => rfl
  | ask kept rest ih => simp [Dialogue.play, ih, Played.hushed, kept]
  | echo echo rest ih =>
    rw [play_note tacit, ih]
    simp [Played.hushed, echo]

end Dialogue

/-- The second talk is the first without its notes of raw traffic. -/
def Talk.Hushes {ε α : Type} (x y : Talk ε α) : Prop := Dialogue.Hushes x.run y.run

namespace Talk.Hushes

variable {ε ε' α β : Type} {x y : Talk ε α} {f g : α → Talk ε β}

theorem value (a : α) : Talk.Hushes (pure a : Talk ε α) (pure a) := .done _

theorem error (e : ε) : Talk.Hushes (throw e : Talk ε α) (throw e) := .done _

theorem bind (h : Talk.Hushes x y) (hf : ∀ a, Talk.Hushes (f a) (g a)) :
    Talk.Hushes (x >>= f) (y >>= g) := by
  refine Dialogue.Hushes.bind h fun r => ?_
  match r with
  | .ok a => exact hf a
  | .error e => exact .done _

theorem ask {q : Ask} {f g : q.Answer → Talk ε β} (kept : q.echoes = false)
    (hf : ∀ answer, Talk.Hushes (f answer) (g answer)) :
    Talk.Hushes (liftM (Dialogue.perform q) >>= f) (liftM (Dialogue.perform q) >>= g) :=
  Dialogue.Hushes.ask kept hf

theorem adapt (h : Talk.Hushes x y) (change : ε → ε') :
    Talk.Hushes (x.adapt change) (y.adapt change) :=
  Dialogue.Hushes.bind h fun _ => .done _

/-- A note of raw traffic, if the line is to take it, and then the rest. -/
theorem noted {p : Bool} {n : Note} (echo : (Ask.note n).echoes = true) (h : Talk.Hushes x y) :
    Talk.Hushes (if p = true then do
      let _ ← (liftM (Dialogue.perform (.note n)) : Talk ε Unit); x else x) y := by
  split
  · exact .echo echo h
  · exact h

end Talk.Hushes

namespace Line

/-- The same line, without an echo of its traffic. -/
def hushed (line : Line) : Line := { line with verbose := false }

theorem push_hushes (line : Line) (total written : Nat) (left : Bytes) :
    Talk.Hushes (line.push total written left) (line.hushed.push total written left) := by
  fun_induction Line.push line total written left with
  | case1 written =>
    rw [Line.push, dif_pos rfl]
    exact .value written
  | case2 written left more ih =>
    rw [Line.push, dif_neg more]
    refine .ask rfl fun answer => ?_
    rcases answer with e | _ | n
    · exact .error _
    · exact .error _
    · exact ih n

theorem send_hushes (line : Line) (c : Command) :
    Talk.Hushes (line.send c) (line.hushed.send c) := by
  refine .noted rfl (.bind (line.push_hushes _ _ _) fun written => .ask rfl fun answer => ?_)
  match answer with
  | .error _ => exact .error _
  | .ok () => exact .ask rfl fun _ => .done _

theorem receive_hushes (line : Line) : Talk.Hushes line.receive line.hushed.receive := by
  refine .ask rfl fun answer => ?_
  match answer with
  | .ok chunk => exact .noted rfl (.value chunk)
  | .error e =>
    change Talk.Hushes (if e.isReadTimeout = true then pure [] else throw _)
      (if e.isReadTimeout = true then pure [] else throw _)
    split
    · exact .value []
    · exact .error _

theorem discard_hushes (line : Line) : Talk.Hushes line.discard line.hushed.discard := by
  refine .ask rfl fun answer => ?_
  match answer with
  | .error _ => exact .error _
  | .ok () => exact .value ()

end Line

namespace Sequence

/-- A look at the clock, which may be left out. -/
theorem overdue_hushes (due : Option Nat) :
    Talk.Hushes (liftM (overdue due) : Talk LinkError Bool) (liftM (overdue due)) := by
  cases due with
  | none => exact .value false
  | some time => exact .ask rfl fun _ => .done _

theorem dueIn_hushes (deadline : Option Nat) :
    Talk.Hushes (liftM (dueIn deadline) : Talk LinkError (Option Nat))
      (liftM (dueIn deadline)) := by
  cases deadline with
  | none => exact .value none
  | some duration =>
    refine .ask rfl fun _ => .ask rfl fun possible => ?_
    cases possible with
    | true => exact .done _
    | false => exact .halted .overflow

theorem gather_hushes (line : Line) (due : Option Nat) (patience : Nat) (received : Bytes) :
    Talk.Hushes (gather line due patience received) (gather line.hushed due patience received) := by
  induction patience generalizing received with
  | zero => exact .halted .impatience
  | succ patience ih =>
    refine line.receive_hushes.bind fun chunk => ?_
    dsimp only
    split
    · exact .value _
    · refine (overdue_hushes due).bind fun late => ?_
      split
      · exact .value _
      · exact ih _

theorem attempt_hushes (line : Line) (options : RunOptions) (patience : Nat) (c : Command)
    (number : Nat) :
    Talk.Hushes (attempt line options patience c number)
      (attempt line.hushed options patience c number) := by
  refine .ask rfl fun _ => (line.send_hushes c).bind fun _ => ?_
  refine .ask rfl fun _ => (dueIn_hushes options.deadline).bind fun due => ?_
  exact gather_hushes line due patience []

theorem settle_hushes (line : Line) (options : RunOptions) (patience : Nat) (c : Command) :
    Talk.Hushes (settle line options patience c) (settle line.hushed options patience c) := by
  refine (attempt_hushes line options patience c 1).bind fun first => ?_
  split
  · refine .ask rfl fun _ => line.discard_hushes.bind fun _ => ?_
    exact (attempt_hushes line options patience c 2).bind fun _ => .value _
  · exact .value _

theorem execute_hushes (line : Line) (options : RunOptions) (patience : Nat) (c : Command) :
    Talk.Hushes (execute line options patience c) (execute line.hushed options patience c) := by
  refine .ask rfl fun start => (settle_hushes line options patience c).bind fun ended => ?_
  exact .ask rfl fun finish => .ask rfl fun _ => .value _

theorem advance_hushes (line : Line) (options : RunOptions) (patience total : Nat)
    (records : List Record) (commands : List Command) :
    Talk.Hushes (advance line options patience total records commands)
      (advance line.hushed options patience total records commands) := by
  induction commands generalizing records with
  | nil => exact .value _
  | cons c rest ih =>
    refine ((execute_hushes line options patience c).adapt _).bind fun r => ?_
    dsimp only
    split
    · split
      · exact .ask rfl fun _ => ih _
      · exact ih _
    · exact .value _
    · exact .value _

theorem run_hushes (line : Line) (options : RunOptions) (patience : Nat)
    (commands : List Command) :
    Talk.Hushes (run line options patience commands)
      (run line.hushed options patience commands) := by
  refine .ask rfl fun _ => ?_
  exact (advance_hushes line options patience _ [] commands).bind fun _ =>
    .ask rfl fun _ => .value _

end Sequence

end ModemBench
