import ModemBench.Dialogue
/-!
Talks that come to their end: with which value, and in which world.
-/

namespace ModemBench

variable {α β ε ε' σ : Type} [World σ]

/-- A step of a talk, and then whatever it leads to. An error leads to nothing more. -/
theorem Talk.play_bind (x : Talk ε α) (f : α → Talk ε β) (w : σ) :
    (x >>= f).run.play w = (x.run.play w).andThen fun
      | .ok a => (f a).run.play
      | .error e => (Dialogue.done (.error e)).play := by
  have hrun : (x >>= f).run = x.run.bind (ExceptT.bindCont f) := rfl
  rw [hrun, Dialogue.play_bind]
  congr 1
  funext r
  cases r <;> rfl

theorem Talk.play_adapt (x : Talk ε α) (g : ε → ε') (w : σ) :
    (x.adapt g).run.play w = (x.run.play w).andThen fun r =>
      (Dialogue.done (r.mapError g)).play := Dialogue.play_bind _ _ _

/-- Played in the world `w`, the talk ends with `a` and leaves the world `w'`. -/
def Reaches (x : Talk ε α) (w : σ) (a : α) (w' : σ) : Prop :=
  (x.run.play w).result = some (.ok a) ∧ (x.run.play w).world = w'

namespace Reaches

variable {x : Talk ε α} {f : α → Talk ε β} {w w' w'' : σ} {a : α} {b : β}

theorem done (a : α) (w : σ) : Reaches (pure a : Talk ε α) w a w := ⟨rfl, rfl⟩

theorem bind (hx : Reaches x w a w') (hf : Reaches (f a) w' b w'') : Reaches (x >>= f) w b w'' := by
  obtain ⟨hresult, rfl⟩ := hx
  unfold Reaches
  rw [Talk.play_bind, Played.andThen, hresult]
  exact hf

theorem perform (q : Ask) (w : σ) :
    Reaches (liftM (Dialogue.perform q) : Talk ε q.Answer) w (World.answer q w).1
      (World.answer q w).2 := ⟨rfl, rfl⟩

/-- A step that asks for something, and goes on in the world behind the answer. -/
theorem ask {q : Ask} {f : q.Answer → Talk ε β}
    (hf : Reaches (f (World.answer q w).1) (World.answer q w).2 b w') :
    Reaches (liftM (Dialogue.perform q) >>= f) w b w' := (perform q w).bind hf

theorem adapt (hx : Reaches x w a w') (g : ε → ε') : Reaches (x.adapt g) w a w' := by
  obtain ⟨hresult, rfl⟩ := hx
  unfold Reaches
  rw [Talk.play_adapt, Played.andThen, hresult]
  exact ⟨rfl, rfl⟩

/-- A talk comes to one end only. -/
theorem value_eq (h : Reaches x w a w') {a' : α} (h' : Reaches x w a' w'') : a = a' := by
  have hsame := h.1.symm.trans h'.1
  cases hsame
  rfl

end Reaches

end ModemBench
