import ModemBench.Proofs.Reaching
/-!
Observing a dialogue: what someone knows who sees each exchange and the world behind it, and what
holds of each exchange and of that knowledge before it. One rule for each way of composing talks.
-/

namespace ModemBench

/-- `P` holds of each exchange and of the state before it, which each exchange changes by `next`. -/
def Throughout {κ : Type} (next : κ → Exchange → κ) (P : κ → Exchange → Prop) (s : κ)
    (es : List Exchange) : Prop :=
  ∀ front e rest, es = front ++ e :: rest → P (front.foldl next s) e

namespace Throughout

variable {κ : Type} {next : κ → Exchange → κ} {P : κ → Exchange → Prop} {s : κ}

theorem nil : Throughout next P s [] := by
  intro front e rest h
  exact absurd h.symm (by simp)

theorem cons_iff {e : Exchange} {es : List Exchange} :
    Throughout next P s (e :: es) ↔ P s e ∧ Throughout next P (next s e) es := by
  constructor
  · intro h
    refine ⟨h [] e es rfl, fun front e' rest hes => h (e :: front) e' rest (by rw [hes]; rfl)⟩
  · rintro ⟨hhead, htail⟩ front e' rest h
    cases front with
    | nil =>
      cases h
      exact hhead
    | cons _ front =>
      cases h
      exact htail front e' rest rfl

theorem append_iff {es es' : List Exchange} :
    Throughout next P s (es ++ es') ↔
      Throughout next P s es ∧ Throughout next P (es.foldl next s) es' := by
  induction es generalizing s with
  | nil => exact ⟨fun h => ⟨nil, h⟩, And.right⟩
  | cons e es ih => rw [List.cons_append, cons_iff, cons_iff, ih, and_assoc, List.foldl_cons]

end Throughout

/-- What a talk ends in: a value or an error, or it is halted; the world then, and what is known of
it. -/
structure Ends (ε α σ κ : Type) where
  value : α → σ → κ → Prop
  error : ε → σ → κ → Prop
  halted : σ → κ → Prop

def Ends.Holds {ε α σ κ : Type} (Q : Ends ε α σ κ) : Option (Except ε α) → σ → κ → Prop
  | some (.ok a) => Q.value a
  | some (.error e) => Q.error e
  | none => Q.halted

section

variable {σ κ : Type} [World σ]

/-- One more exchange of the world, seen by someone who also sees the world behind it. -/
def observe (see : κ → Exchange → σ → κ) (s : σ × κ) (e : Exchange) : σ × κ :=
  ((World.answer e.question s.1).2, see s.2 e (World.answer e.question s.1).2)

/-- Played in the world `w` by someone who knows `k`, the talk has `P` hold throughout, and `Q` in
the end. -/
structure Observed {ε α : Type} (see : κ → Exchange → σ → κ) (P : σ → κ → Exchange → Prop)
    (x : Talk ε α) (w : σ) (k : κ) (Q : Ends ε α σ κ) : Prop where
  throughout : Throughout (observe see) (fun s => P s.1 s.2) (w, k) (x.run.play w).exchanges
  ends : Q.Holds (x.run.play w).result (x.run.play w).world
    ((x.run.play w).exchanges.foldl (observe see) (w, k)).2

theorem Dialogue.play_observed {α : Type} (d : Dialogue α) (see : κ → Exchange → σ → κ) (w : σ)
    (k : κ) : ((d.play w).exchanges.foldl (observe see) (w, k)).1 = (d.play w).world := by
  induction d generalizing w k with
  | done | halted => rfl
  | ask q next ih => exact ih _ _ _

namespace Observed

variable {ε ε' α β : Type} {see : κ → Exchange → σ → κ} {P : σ → κ → Exchange → Prop}
  {x : Talk ε α} {f : α → Talk ε β} {w : σ} {k : κ}

theorem done {Q : Ends ε α σ κ} {a : α} (h : Q.value a w k) :
    Observed see P (pure a : Talk ε α) w k Q := ⟨.nil, h⟩

theorem broken {Q : Ends ε α σ κ} {e : ε} (h : Q.error e w k) :
    Observed see P (throw e : Talk ε α) w k Q := ⟨.nil, h⟩

/-- A step, and then whatever its value leads to. -/
theorem bind {V : Ends ε α σ κ} {Q : Ends ε β σ κ} (h : Observed see P x w k V)
    (value : ∀ a w' k', V.value a w' k' → Observed see P (f a) w' k' Q)
    (error : ∀ e w' k', V.error e w' k' → Q.error e w' k')
    (halted : ∀ w' k', V.halted w' k' → Q.halted w' k') :
    Observed see P (x >>= f) w k Q := by
  obtain ⟨hthrough, hends⟩ := h
  have hworld := Dialogue.play_observed x.run see w k
  have hplay := Talk.play_bind x f w
  generalize x.run.play w = p at hthrough hends hworld hplay
  obtain ⟨r, es, w'⟩ := p
  match r with
  | some (.ok a) =>
    have hrest := value a w' _ hends
    have hstate : es.foldl (observe see) (w, k) =
        (w', (es.foldl (observe see) (w, k)).2) := Prod.ext hworld rfl
    refine ⟨?_, ?_⟩ <;> rw [hplay]
    · refine Throughout.append_iff.mpr ⟨hthrough, ?_⟩
      rw [hstate]
      exact hrest.throughout
    · have hend := hrest.ends
      rw [← hstate, ← List.foldl_append] at hend
      exact hend
  | some (.error e) =>
    refine ⟨?_, ?_⟩ <;> rw [hplay]
    · exact Throughout.append_iff.mpr ⟨hthrough, .nil⟩
    · change Q.error e w' ((es ++ []).foldl (observe see) (w, k)).2
      rw [List.append_nil]
      exact error e _ _ hends
  | none =>
    refine ⟨?_, ?_⟩ <;> rw [hplay]
    · exact hthrough
    · exact halted _ _ hends

theorem mono {V Q : Ends ε α σ κ} (h : Observed see P x w k V)
    (value : ∀ a w' k', V.value a w' k' → Q.value a w' k')
    (error : ∀ e w' k', V.error e w' k' → Q.error e w' k')
    (halted : ∀ w' k', V.halted w' k' → Q.halted w' k') : Observed see P x w k Q := by
  rw [← bind_pure x]
  exact h.bind (fun a w' k' ha => .done (value a w' k' ha)) error halted

/-- A question whose answer is the end. -/
theorem perform {q : Ask} {Q : Ends ε q.Answer σ κ}
    (h : ∀ answer w', World.answer q w = (answer, w') →
      P w k ⟨q, answer⟩ ∧ Q.value answer w' (see k ⟨q, answer⟩ w')) :
    Observed see P (liftM (Dialogue.perform q) : Talk ε q.Answer) w k Q := by
  obtain ⟨hnow, hend⟩ := h _ _ rfl
  exact ⟨Throughout.cons_iff.mpr ⟨hnow, .nil⟩, hend⟩

/-- A step that asks for something, and goes on with the answer. -/
theorem ask {q : Ask} {f : q.Answer → Talk ε β} {Q : Ends ε β σ κ}
    (h : ∀ answer w', World.answer q w = (answer, w') →
      P w k ⟨q, answer⟩ ∧ Observed see P (f answer) w' (see k ⟨q, answer⟩ w') Q) :
    Observed see P (liftM (Dialogue.perform q) >>= f) w k Q := by
  have hstep : Observed see P (liftM (Dialogue.perform q) : Talk ε q.Answer) w k
      ⟨fun answer w' k' => Observed see P (f answer) w' k' Q, Q.error, Q.halted⟩ := .perform h
  exact hstep.bind (fun _ _ _ h => h) (fun _ _ _ h => h) fun _ _ h => h

theorem adapt {g : ε → ε'} {V : Ends ε α σ κ} {Q : Ends ε' α σ κ} (h : Observed see P x w k V)
    (value : ∀ a w' k', V.value a w' k' → Q.value a w' k')
    (error : ∀ e w' k', V.error e w' k' → Q.error (g e) w' k')
    (halted : ∀ w' k', V.halted w' k' → Q.halted w' k') :
    Observed see P (x.adapt g) w k Q := by
  obtain ⟨hthrough, hends⟩ := h
  have hplay := Talk.play_adapt x g w
  generalize x.run.play w = p at hthrough hends hplay
  obtain ⟨r, es, w'⟩ := p
  have hsame : (es ++ ([] : List Exchange)).foldl (observe see) (w, k) =
      es.foldl (observe see) (w, k) := by rw [List.append_nil]
  match r with
  | some (.ok a) =>
    refine ⟨?_, ?_⟩ <;> rw [hplay]
    · exact Throughout.append_iff.mpr ⟨hthrough, .nil⟩
    · exact hsame ▸ value a _ _ hends
  | some (.error e) =>
    refine ⟨?_, ?_⟩ <;> rw [hplay]
    · exact Throughout.append_iff.mpr ⟨hthrough, .nil⟩
    · exact hsame ▸ error e _ _ hends
  | none =>
    refine ⟨?_, ?_⟩ <;> rw [hplay]
    · exact hthrough
    · exact halted _ _ hends

end Observed

end

end ModemBench
