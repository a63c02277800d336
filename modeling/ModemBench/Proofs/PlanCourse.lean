import ModemBench.Plan.Run
import ModemBench.Proofs.Course
/-!
The courses of a plan: where it ends before anything is sent, or what its run may exchange behind
the clearing of the line.
-/

namespace ModemBench

namespace Plan

/-- What comes before a run: the host is made ready, the link opened, and the line cleared. -/
def opening (plan : Plan) (settings : Settings) (line : Line) : List Exchange :=
  [⟨.note (.selected plan.selection.family plan.selection.label plan.commands.length), ()⟩,
    ⟨.prepare settings.serial.port, .ok ()⟩,
    ⟨.connect settings.serial settings.logging.verbose, .ok line⟩, ⟨.clear, .ok ()⟩]

/-- A plan from its selection to its summary. -/
inductive Performed (plan : Plan) (settings : Settings) :
    List Exchange → Option (Except Failure Summary) → Prop where
  | unprepared (e : PreparationError) :
      Performed plan settings
        [⟨.note (.selected plan.selection.family plan.selection.label plan.commands.length), ()⟩,
          ⟨.prepare settings.serial.port, .error e⟩]
        (some (.error (.preparation e)))
  | unconnected (e : LinkError) :
      Performed plan settings
        [⟨.note (.selected plan.selection.family plan.selection.label plan.commands.length), ()⟩,
          ⟨.prepare settings.serial.port, .ok ()⟩,
          ⟨.connect settings.serial settings.logging.verbose, .error e⟩]
        (some (.error (.link e)))
  | uncleared (line : Line) (e : PortError) :
      Performed plan settings
        [⟨.note (.selected plan.selection.family plan.selection.label plan.commands.length), ()⟩,
          ⟨.prepare settings.serial.port, .ok ()⟩,
          ⟨.connect settings.serial settings.logging.verbose, .ok line⟩, ⟨.clear, .error e⟩]
        (some (.error (.link (.readFailed line.port e))))
  | reported
      (course : Sequence.Ran line settings.pacing.options plan.commands es (some (.ok report))) :
      Performed plan settings (plan.opening settings line ++ es)
        (some (.ok ⟨plan.selection.family.name, plan.selection.label, line.port, report⟩))
  | cut (course : Sequence.Ran line settings.pacing.options plan.commands es (some (.error i))) :
      Performed plan settings (plan.opening settings line ++ es) (some (.error (.interrupted i)))
  | halted (course : Sequence.Ran line settings.pacing.options plan.commands es none) :
      Performed plan settings (plan.opening settings line ++ es) none

theorem run_course {plan : Plan} {settings : Settings} {patience : Nat} {es : List Exchange}
    {r : Option (Except Failure Summary)}
    (h : Transcript (plan.run settings patience).run es r) : Performed plan settings es r := by
  obtain ⟨⟨⟩, rest, rfl, hprepare⟩ := Transcript.of_perform h
  obtain ⟨prepared, rest, rfl, hconnect⟩ := Transcript.of_perform hprepare
  match prepared with
  | .error e =>
    obtain ⟨rfl, rfl⟩ := Transcript.of_throw hconnect
    exact .unprepared e
  | .ok () =>
    obtain ⟨connected, rest, rfl, hopened⟩ := Transcript.of_perform hconnect
    match connected with
    | .error e =>
      obtain ⟨rfl, rfl⟩ := Transcript.of_throw hopened
      exact .unconnected e
    | .ok line =>
      rcases Transcript.of_step hopened with
        ⟨⟨⟩, first, second, rfl, hfirst, hrun⟩ | ⟨f, hfirst, rfl⟩ | ⟨hfirst, rfl⟩
      · obtain ⟨cleared, hr, hcleared⟩ := Line.discard_course (Transcript.of_adapt_ok hfirst)
        cases hr
        cases hcleared
        rcases Transcript.of_step hrun with
          ⟨report, during, last, rfl, hduring, hlast⟩ | ⟨f, hduring, rfl⟩ | ⟨hduring, rfl⟩
        · obtain ⟨rfl, rfl⟩ := Transcript.of_pure hlast
          rw [List.append_nil]
          exact .reported (Sequence.run_course (Transcript.of_adapt_ok hduring))
        · obtain ⟨i, rfl, hran⟩ := Transcript.of_adapt_error hduring
          exact .cut (Sequence.run_course hran)
        · exact .halted (Sequence.run_course (Transcript.of_adapt_none hduring))
      · obtain ⟨cause, rfl, hclear⟩ := Transcript.of_adapt_error hfirst
        obtain ⟨cleared, hr, hcleared⟩ := Line.discard_course hclear
        cases hr
        cases hcleared with
        | failed e => exact .uncleared line e
      · obtain ⟨cleared, hr, -⟩ := Line.discard_course (Transcript.of_adapt_none hfirst)
        cases hr

end Plan

end ModemBench
