import ModemBench.Bench.World
/-!
Programs that cannot be started. The path that a program is looked for at may lead to a file that
names another to run it, and that one to a third; where no program is found in the end, the host has
been left as it was.
-/

namespace ModemBench

/-- What cannot be started has done nothing to the process that it was to take the place of. -/
def Shell.Calls.Careful (c : Shell.Calls) : Prop :=
  ∀ path words e (j j' : Job), (c.launch path words).run j = (.error e, j') → j' = j

theorem Launch.launch_careful {c : Shell.Calls} (h : c.Careful) {path : String}
    {words : List String} {e : SystemError} {j j' : Job}
    (failed : (Launch.launch c path words).run j = (.error e, j')) : j' = j := by
  unfold Launch.launch at failed
  split at failed
  · cases failed
    rfl
  · simp only [StateT.run_bind, StateT.run_get, pure_bind] at failed
    split at failed
    · cases failed
      rfl
    · cases failed
    · split at failed
      · cases failed
        rfl
      · split at failed
        · exact h _ _ _ _ _ failed
        · cases failed
          rfl
    · cases failed
      rfl

/-- The induction is on how deeply programs may be nested that run one another. -/
theorem Shell.calls_careful (depth : Nat) : (Shell.calls depth).Careful := by
  induction depth with
  | zero =>
    intro path words e j j' failed
    cases failed
  | succ depth ih =>
    intro path words e j j' failed
    exact Launch.launch_careful ih failed

namespace Host

/-- A process begins on the disk of the host, and with nothing printed. -/
theorem run_error {h h' : Host} {path : String} {words : List String} {e : SystemError}
    (failed : h.run path words = (.error e, h')) : h' = h := by
  unfold run at failed
  dsimp only at failed
  generalize hbegin : Job.begin { disk := h.disk } _ = begun at failed
  generalize hlaunch : StateT.run _ begun = launched at failed
  obtain ⟨result, job⟩ := launched
  cases failed
  obtain rfl := Shell.calls_careful _ _ _ _ _ _ hlaunch
  subst hbegin
  change { h with stdout := h.stdout ++ [], stderr := h.stderr ++ [] } = h
  rw [List.append_nil, List.append_nil]

theorem start_error {h h' : Host} {program reason : String} {arguments : List String}
    (failed : h.start program arguments = (.error reason, h')) : h' = h := by
  unfold start at failed
  dsimp only at failed
  split at failed
  · cases failed
    rfl
  · split at failed
    · cases failed
      rfl
    · next path hpath =>
      generalize hrun : h.run path (program :: arguments) = ran at failed
      obtain ⟨result, left⟩ := ran
      cases result with
      | ok status => cases failed
      | error e =>
        cases failed
        exact run_error hrun

end Host

/-- A program that cannot be started leaves the whole bench as it was, the port and the host. -/
theorem Bench.start_error {b b' : Bench} {program reason : String} {arguments : List String}
    (failed : World.answer (.start program arguments) b = (.error reason, b')) : b' = b := by
  change ((b.host.start program arguments).1, { b with host := (b.host.start program arguments).2 }) =
    (Except.error reason, b') at failed
  obtain ⟨hfailed, rfl⟩ := Prod.mk.inj failed
  have hhost : (b.host.start program arguments).2 = b.host := Host.start_error (Prod.ext hfailed rfl)
  rw [hhost]

end ModemBench
