import ModemBench.Line
/-!
Text and its bytes: reading back what was encoded gives the text, and the only byte of an encoded
text that ends a line is an end of line in the text. A command on the wire is such a text.
-/

namespace ModemBench

namespace Text

theorem step_ascii {n : Nat} (h : n ≤ 0x7F) :
    step none (.ofNat n) = ([Char.ofNat n], none) := by
  have hb : (UInt8.ofNat n).toNat = n := by
    rw [UInt8.toNat_ofNat']
    omega
  have hlt : UInt8.ofNat n < 0x80 := by
    rw [UInt8.lt_iff_toNat_lt, hb]
    exact Nat.lt_succ_of_le h
  rw [step, start, if_pos hlt, hb]

theorem step_two : ∀ n < 32, 2 ≤ n →
    step none (.ofNat (n + 0xC0)) = ([], some ⟨n, 1, 0x80, 0xBF⟩) := by
  decide

theorem step_three : ∀ n < 16, step none (.ofNat (n + 0xE0)) =
    ([], some ⟨n, 2, if n = 0 then 0xA0 else 0x80, if n = 13 then 0x9F else 0xBF⟩) := by
  decide

theorem step_four : ∀ n < 5, step none (.ofNat (n + 0xF0)) =
    ([], some ⟨n, 3, if n = 0 then 0x90 else 0x80, if n = 4 then 0x8F else 0xBF⟩) := by
  decide

/-- A byte in the range that is awaited carries six bits. -/
theorem step_tail {p : Begun} {n : Nat} (low : p.low.toNat ≤ n % 64 + 0x80)
    (high : n % 64 + 0x80 ≤ p.high.toNat) :
    step (some p) (.ofNat (n % 64 + 0x80)) =
      if p.owed = 1 then ([Char.ofNat (p.bits * 64 + n % 64)], none)
      else ([], some ⟨p.bits * 64 + n % 64, p.owed - 1, 0x80, 0xBF⟩) := by
  have hb : (UInt8.ofNat (n % 64 + 0x80)).toNat = n % 64 + 0x80 := by
    rw [UInt8.toNat_ofNat']
    omega
  have hrange : p.low ≤ UInt8.ofNat (n % 64 + 0x80) ∧ UInt8.ofNat (n % 64 + 0x80) ≤ p.high := by
    simp only [UInt8.le_iff_toNat_le, hb]
    exact ⟨low, high⟩
  simp only [step, if_pos hrange, hb, Nat.add_sub_cancel]

theorem chars_cons {p p' : Option Begun} {b : UInt8} {cs : List Char} (h : step p b = (cs, p'))
    (rest : Bytes) : chars p (b :: rest) = cs ++ chars p' rest := by
  simp only [chars, h]

theorem chars_tail {p : Begun} {n : Nat} (more : p.owed ≠ 1) (low : p.low.toNat ≤ n % 64 + 0x80)
    (high : n % 64 + 0x80 ≤ p.high.toNat) (rest : Bytes) :
    chars (some p) (.ofNat (n % 64 + 0x80) :: rest) =
      chars (some ⟨p.bits * 64 + n % 64, p.owed - 1, 0x80, 0xBF⟩) rest := by
  have h := step_tail low high
  rw [if_neg more] at h
  exact chars_cons h rest

theorem chars_last {p : Begun} {n : Nat} (last : p.owed = 1) (low : p.low.toNat ≤ n % 64 + 0x80)
    (high : n % 64 + 0x80 ≤ p.high.toNat) (rest : Bytes) :
    chars (some p) (.ofNat (n % 64 + 0x80) :: rest) =
      Char.ofNat (p.bits * 64 + n % 64) :: chars none rest := by
  have h := step_tail low high
  rw [if_pos last] at h
  exact chars_cons h rest

/-- A character is read back from its bytes, and nothing is left begun. The cases are the four
lengths that a character may have in bytes. -/
theorem chars_encodeChar (c : Char) (rest : Bytes) :
    chars none (String.utf8EncodeChar c ++ rest) = c :: chars none rest := by
  have hvalid : c.val.toNat < 0xD800 ∨ 0xDFFF < c.val.toNat ∧ c.val.toNat < 0x110000 := c.valid
  have hc : Char.ofNat c.val.toNat = c := Char.ofNat_toNat c
  unfold String.utf8EncodeChar
  generalize c.val.toNat = v at hvalid hc
  simp only
  split
  · next h1 =>
    rw [List.singleton_append, chars_cons (step_ascii h1), hc]
    rfl
  · split
    · next h1 h2 =>
      have hlead := step_two (v / 64 % 32) (by omega) (by omega)
      have hbits : v / 64 % 32 * 64 + v % 64 = v := by omega
      simp only [List.cons_append, List.nil_append]
      rw [chars_cons hlead, List.nil_append, chars_last rfl (by simp) (by simp; omega), hbits, hc]
    · split
      · next h1 h2 h3 =>
        have hlead := step_three (v / 4096 % 16) (by omega)
        have hbits : (v / 4096 % 16 * 64 + v / 64 % 64) * 64 + v % 64 = v := by omega
        simp only [List.cons_append, List.nil_append]
        rw [chars_cons hlead, List.nil_append, chars_tail (by simp) ?_ ?_,
          chars_last rfl (by simp) (by simp; omega), hbits, hc]
        · dsimp only
          split <;> (simp only [UInt8.reduceToNat]; omega)
        · dsimp only
          split <;> (simp only [UInt8.reduceToNat]; omega)
      · next h1 h2 h3 =>
        have hlead := step_four (v / 262144 % 8) (by omega)
        have hbits :
            ((v / 262144 % 8 * 64 + v / 4096 % 64) * 64 + v / 64 % 64) * 64 + v % 64 = v := by omega
        simp only [List.cons_append, List.nil_append]
        rw [chars_cons hlead, List.nil_append, chars_tail (by simp) ?_ ?_,
          chars_tail (by simp) (by simp) (by simp; omega),
          chars_last rfl (by simp) (by simp; omega), hbits, hc]
        · dsimp only
          split <;> (simp only [UInt8.reduceToNat]; omega)
        · dsimp only
          split <;> (simp only [UInt8.reduceToNat]; omega)

/-- The bytes of a text give the text. -/
theorem decode_encode (s : String) : decode (encode s) = s := by
  have h : ∀ cs : List Char, chars none (cs.flatMap String.utf8EncodeChar) = cs := by
    intro cs
    induction cs with
    | nil => rfl
    | cons c cs ih => rw [List.flatMap_cons, chars_encodeChar, ih]
  rw [decode, encode, h, String.ofList_toList]

theorem length_encode (s : String) : (encode s).length = s.utf8ByteSize := by
  have hbytes : s.toByteArray = (encode s).toByteArray := String.utf8Encode_toList.symm
  rw [String.utf8ByteSize, hbytes, List.size_toByteArray]

theorem encode_append (s t : String) : encode (s ++ t) = encode s ++ encode t := by
  rw [encode, String.toList_append, List.flatMap_append]
  rfl

theorem ne_newline {n : Nat} (low : n ≠ 0x0A) (high : n < 256) : 0x0A ≠ UInt8.ofNat n := by
  intro h
  have hnat := congrArg UInt8.toNat h
  rw [UInt8.toNat_ofNat', Nat.mod_eq_of_lt high] at hnat
  exact low hnat.symm

/-- Apart from the end of line itself, a character in ASCII is another byte, and the bytes of any
other character are above ASCII. -/
theorem newline_of_mem_encodeChar {c : Char} (h : 0x0A ∈ String.utf8EncodeChar c) : c = '\n' := by
  have hc : Char.ofNat c.val.toNat = c := Char.ofNat_toNat c
  unfold String.utf8EncodeChar at h
  generalize c.val.toNat = v at h hc
  simp only at h
  split at h
  · next h1 =>
    by_cases hv : v = 0x0A
    · rw [← hc, hv]
    · exact absurd (List.mem_singleton.mp h) (ne_newline hv (by omega))
  · repeat' split at h
    all_goals
      simp (disch := omega) only [ne_newline, List.mem_cons, List.not_mem_nil, or_false] at h

/-- The byte that ends a line stands only where the text has an end of line. -/
theorem newline_of_mem_encode {s : String} (h : 0x0A ∈ encode s) : '\n' ∈ s.toList := by
  obtain ⟨c, hc, hb⟩ := List.mem_flatMap.mp h
  exact newline_of_mem_encodeChar hb ▸ hc

end Text

namespace Command

theorem length_wire (c : Command) : c.wire.length = c.line.utf8ByteSize + 2 := by
  rw [wire, List.length_append, Text.length_encode]
  rfl

theorem decode_wire (c : Command) : Text.decode c.wire = c.line ++ "\r\n" := by
  have hwire : c.wire = Text.encode (c.line ++ "\r\n") := by
    rw [Text.encode_append]
    rfl
  rw [hwire, Text.decode_encode]

end Command

end ModemBench
