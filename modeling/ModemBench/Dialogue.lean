import ModemBench.Note
import ModemBench.Preparation.Status
import ModemBench.Settings.Basic
/-!
Dialogues: programs as conversations with the world. A dialogue ends with a value, is halted, or
asks for something and goes on with the answer, whatever it is. `play` holds one against a world that
answers from its state, and keeps the exchanges in order.
-/

namespace ModemBench

/-- The link of a run: the name of its port, and whether its traffic is echoed. -/
structure Line where
  port : String
  verbose : Bool
deriving Repr, DecidableEq

inductive Ask where
  /-- Offer bytes to the port; it says how many it took. -/
  | write (bytes : Bytes)
  | flush
  /-- Wait for at most `cap` bytes, no longer than one read timeout. -/
  | read (cap : Nat)
  /-- Drop what is pending in both directions. -/
  | clear
  /-- The time in microseconds. -/
  | clock
  /-- Whether the clock could tell that time. -/
  | tellable (time : Nat)
  /-- Do nothing for that many milliseconds. -/
  | sleep (duration : Nat)
  | note (entry : Note)
  /-- Make the host ready for the port. -/
  | prepare (port : String)
  | connect (serial : Serial) (verbose : Bool)
  /-- Run a program to its end; where it cannot be started, the reason. -/
  | start (program : String) (arguments : List String)
  | attach (serial : Serial)
  | print (text : String)
  | complain (text : String)
deriving Repr, DecidableEq

abbrev Ask.Answer : Ask → Type
  | write _ => Except PortError Nat
  | flush | clear | attach _ => Except PortError Unit
  | read _ => Except PortError Bytes
  | clock => Nat
  | tellable _ => Bool
  | sleep _ | note _ | print _ | complain _ => Unit
  | prepare _ => Except PreparationError Unit
  | connect _ _ => Except LinkError Line
  | start _ _ => Except String ExitStatus

/-- Why a dialogue stops short of a value. -/
inductive Halt where
  /-- It has run out of patience. -/
  | impatience
  /-- It needs a time that the clock cannot tell, and breaks down. -/
  | overflow
deriving Repr, DecidableEq

inductive Dialogue (α : Type) where
  | done (value : α)
  | halted (why : Halt)
  | ask (q : Ask) (next : q.Answer → Dialogue α)

namespace Dialogue

def bind {α β : Type} (f : α → Dialogue β) : Dialogue α → Dialogue β
  | done a => f a
  | halted why => halted why
  | ask q next => ask q fun answer => (next answer).bind f

instance : Monad Dialogue where
  pure := done
  bind d f := d.bind f

def perform (q : Ask) : Dialogue q.Answer := ask q done

@[simp] theorem bind_done {α : Type} (d : Dialogue α) : d.bind done = d := by
  induction d with
  | done | halted => rfl
  | ask q next ih => simp [bind, ih]

theorem bind_bind {α β γ : Type} (d : Dialogue α) (f : α → Dialogue β) (g : β → Dialogue γ) :
    (d.bind f).bind g = d.bind fun a => (f a).bind g := by
  induction d with
  | done | halted => rfl
  | ask q next ih => simp [bind, ih]

instance : LawfulMonad Dialogue := LawfulMonad.mk' Dialogue
  (fun d => bind_done d) (fun _ _ => rfl) (fun d f g => bind_bind d f g)

/-- Answers some of the questions by dialogues of their own. -/
def expand {α : Type} (f : (q : Ask) → Dialogue q.Answer) : Dialogue α → Dialogue α
  | done a => done a
  | halted why => halted why
  | ask q next => (f q).bind fun answer => (next answer).expand f

end Dialogue

/-- A dialogue that may break off with an error. -/
abbrev Talk (ε α : Type) := ExceptT ε Dialogue α

/-- What a dialogue deals with: each question is answered, and may change the state. -/
class World (σ : Type) where
  answer : (q : Ask) → σ → q.Answer × σ

structure Exchange where
  question : Ask
  answer : question.Answer

/-- A dialogue held against a world. There is no result if the dialogue was halted. -/
structure Played (α σ : Type) where
  result : Option α
  exchanges : List Exchange
  world : σ

def Dialogue.play {α σ : Type} [World σ] : Dialogue α → σ → Played α σ
  | done a, w => ⟨some a, [], w⟩
  | halted _, w => ⟨none, [], w⟩
  | ask q next, w =>
    let (answer, w) := World.answer q w
    let rest := (next answer).play w
    { rest with exchanges := ⟨q, answer⟩ :: rest.exchanges }

/-- What was played, and then whatever its result leads to, in the world it left. -/
def Played.andThen {α β σ : Type} (p : Played α σ) (f : α → σ → Played β σ) : Played β σ :=
  match p.result with
  | none => ⟨none, p.exchanges, p.world⟩
  | some a =>
    let rest := f a p.world
    { rest with exchanges := p.exchanges ++ rest.exchanges }

theorem Dialogue.play_bind {α β σ : Type} [World σ] (d : Dialogue α) (f : α → Dialogue β) (w : σ) :
    (d.bind f).play w = (d.play w).andThen fun a => (f a).play := by
  induction d generalizing w with
  | done a => rfl
  | halted => rfl
  | ask q next ih =>
    simp only [bind, play, ih, Played.andThen]
    split <;> simp_all

/-- The notes among exchanges, in order. -/
def Exchange.notes (es : List Exchange) : List Note :=
  es.filterMap fun e => match e.question with
    | .note n => some n
    | _ => none

end ModemBench
