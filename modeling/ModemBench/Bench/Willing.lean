import ModemBench.Dialogue
import ModemBench.Sequence.Verdict
/-!
A world without trouble: the host and the modem do everything at once and well, and no time passes.
-/

namespace ModemBench

structure Willing where

instance : World Willing where
  answer
    | .write bytes, w => (.ok bytes.length, w)
    | .flush, w | .clear, w | .attach _, w => (.ok (), w)
    | .read _, w => (.ok Verdict.successToken, w)
    | .clock, w => (0, w)
    | .tellable _, w => (true, w)
    | .sleep _, w | .note _, w | .print _, w | .complain _, w => ((), w)
    | .prepare _, w => (.ok (), w)
    | .connect serial verbose, w => (.ok ⟨serial.port, verbose⟩, w)
    | .start _ _, w => (.ok (.code 0), w)

end ModemBench
