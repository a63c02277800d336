import Mathlib.Data.List.Basic
import Mathlib.Data.List.TakeWhile
import ModemBench.Suite.Template
import ModemBench.Text.Numeral
/-!
Commands read back. What a template writes has the template's name, and its parameters are the
values of its fields, each cut at the commas in it. A line that a command begins is made up of the
name and the parameters read from it. Numbers are written in decimal.
-/

namespace ModemBench

namespace Text

/-- A decimal numeral with no more zeros in front than it needs. -/
def Decimal (n : Nat) (s : String) : Prop :=
  digits? s.toList = some n ∧ (s.toList.head? = some '0' → s = "0")

theorem Decimal.unique {n m : Nat} {s : String} (hn : Decimal n s) (hm : Decimal m s) : n = m :=
  Option.some.inj (hn.1.symm.trans hm.1)

theorem digit_digitChar {n : Nat} (h : n < 10) : digit n.digitChar = n := by
  decide +revert

theorem isDigit_of_mem_toDigits {n : Nat} {c : Char} (h : c ∈ Nat.toDigits 10 n) :
    isDigit c = true := by
  have := Nat.isDigit_of_mem_toDigits (by decide) (by decide) h
  simp only [Char.isDigit, Bool.and_eq_true, decide_eq_true_eq] at this
  simp only [isDigit, Bool.and_eq_true, decide_eq_true_eq]
  exact this

/-- The last digit counts for itself, and those before it for ten times as much. -/
theorem digitsValue_toDigits (n : Nat) : digitsValue (Nat.toDigits 10 n) = n := by
  induction n using Nat.strongRecOn with
  | ind n ih =>
    by_cases hn : n < 10
    · rw [Nat.toDigits_of_lt_base hn, digitsValue, List.foldl_cons, List.foldl_nil,
        digit_digitChar hn, Nat.zero_mul, Nat.zero_add]
    · have hfront := ih (n / 10) (by omega)
      unfold digitsValue at hfront ⊢
      rw [Nat.toDigits_of_base_le (by decide) (by omega), List.foldl_append, hfront,
        List.foldl_cons, List.foldl_nil, digit_digitChar (Nat.mod_lt n (by decide))]
      omega

theorem digitChar_ne_zero {n : Nat} (h : n < 10) (hn : n ≠ 0) : n.digitChar ≠ '0' := by
  decide +revert

theorem head_toDigits {n : Nat} (h : n ≠ 0) : (Nat.toDigits 10 n).head? ≠ some '0' := by
  induction n using Nat.strongRecOn with
  | ind n ih =>
    by_cases hn : n < 10
    · rw [Nat.toDigits_of_lt_base hn]
      simpa using digitChar_ne_zero hn h
    · rw [Nat.toDigits_of_base_le (by decide) (by omega),
        List.head?_append_of_ne_nil _ Nat.toDigits_ne_nil]
      exact ih (n / 10) (by omega) (by omega)

theorem toList_toString (n : Nat) : (toString n).toList = Nat.toDigits 10 n :=
  Nat.toList_repr

/-- Numbers are written in decimal. -/
theorem decimal_toString (n : Nat) : Decimal n (toString n) := by
  constructor
  · rw [toList_toString, digits?, if_pos ⟨Nat.toDigits_ne_nil, List.all_eq_true.mpr fun _ =>
      isDigit_of_mem_toDigits⟩, digitsValue_toDigits]
  · intro h
    rw [toList_toString] at h
    by_cases hn : n = 0
    · rw [hn]
      rfl
    · exact absurd h (head_toDigits hn)

theorem not_mem_toString {n : Nat} {c : Char} (h : isDigit c = false) :
    c ∉ (toString n).toList := by
  intro hc
  rw [toList_toString] at hc
  exact absurd (isDigit_of_mem_toDigits hc) (by simp [h])

end Text

namespace Command

theorem parts_eq_splitOn (cs : List Char) : parts cs = cs.splitOn ',' := by
  induction cs with
  | nil => rfl
  | cons c rest ih =>
    rw [parts, ih, List.splitOn_cons_eq_if_modifyHead]
    by_cases hc : c = ','
    · simp [hc]
    · rw [if_neg hc, if_neg (by simpa using hc)]
      cases hp : rest.splitOn ',' with
      | nil => exact absurd hp (List.splitOn_ne_nil ',' rest)
      | cons first others => rfl

/-- Parts that are joined with commas come apart again, and so do their own parts. -/
theorem parts_intercalate {pieces : List (List Char)} (h : pieces ≠ []) :
    parts ([','].intercalate pieces) = pieces.flatMap parts := by
  simp only [funext parts_eq_splitOn]
  induction pieces with
  | nil => exact absurd rfl h
  | cons piece rest ih =>
    cases rest with
    | nil => simp
    | cons next rest =>
      rw [List.intercalate_cons_cons, List.append_assoc, List.singleton_append, List.splitOn,
        List.splitOnP_append_cons _ _ (by simp), List.flatMap_cons, ← ih (by simp)]
      rfl

theorem parts_of_not_mem {cs : List Char} (h : ',' ∉ cs) : parts cs = [cs] := by
  rw [parts_eq_splitOn, List.splitOn_eq_singleton h]

theorem halves_of_not_mem {cs : List Char} (h : '=' ∉ cs) : halves cs = (cs, none) := by
  have hall : ∀ c ∈ cs, (c != '=') = true := fun c hc => by
    simpa using fun he : c = '=' => h (he ▸ hc)
  have : cs.dropWhile (· != '=') = [] := List.dropWhile_eq_nil_iff.mpr hall
  rw [halves, this]

theorem halves_append {cs rest : List Char} (h : '=' ∉ cs) :
    halves (cs ++ '=' :: rest) = (cs, some rest) := by
  have hall : ∀ c ∈ cs, (c != '=') = true := fun c hc => by
    simpa using fun he : c = '=' => h (he ▸ hc)
  rw [halves, List.dropWhile_append_of_pos hall, List.takeWhile_append_of_pos hall]
  simp

end Command

namespace Template

variable {t : Template} {p : Parameters}

/-- A template without fields is its name, and one with fields goes on after an equals sign. -/
theorem toList_render (t : Template) (p : Parameters) :
    (t.render p).line.toList = 'A' :: 'T' :: '+' :: (t.name.toList ++
      if t.fields = [] then []
      else '=' :: [','].intercalate (t.fields.map fun f => (f.render p).toList)) := by
  have hat : "AT+".toList = ['A', 'T', '+'] := rfl
  have heq : "=".toList = ['='] := rfl
  have hcomma : ",".toList = [','] := rfl
  rw [render]
  by_cases h : t.fields = []
  · simp [h, hat]
  · simp [h, hat, heq, hcomma, String.toList_intercalate, Function.comp_def]

theorem mem_of_mem_intercalate {α : Type} {x sep : α} {parts : List (List α)}
    (h : x ∈ [sep].intercalate parts) : x = sep ∨ ∃ part ∈ parts, x ∈ part := by
  induction parts with
  | nil => cases h
  | cons part rest ih =>
    cases rest with
    | nil => exact .inr ⟨part, List.mem_singleton_self part, by simpa using h⟩
    | cons next rest =>
      rw [List.intercalate_cons_cons, List.mem_append, List.mem_append, List.mem_singleton] at h
      rcases h with (hpart | hsep) | hrest
      · exact .inr ⟨part, List.mem_cons_self, hpart⟩
      · exact .inl hsep
      · exact (ih hrest).imp_right fun ⟨q, hq, hx⟩ => ⟨q, List.mem_cons_of_mem part hq, hx⟩

/-- What is in no name and no field is in a command only if every command is written with it. -/
theorem not_mem_render {c : Char} (head : c ∉ ['A', 'T', '+', '=', ','])
    (name : c ∉ t.name.toList) (fields : ∀ f ∈ t.fields, c ∉ (f.render p).toList) :
    c ∉ (t.render p).line.toList := by
  simp only [List.mem_cons, List.not_mem_nil, or_false, not_or] at head
  rw [toList_render]
  simp only [List.mem_cons, List.mem_append, not_or, head, name, not_false_eq_true, true_and]
  split
  · exact List.not_mem_nil
  · rw [List.mem_cons, not_or]
    refine ⟨head.2.2.2.1, fun hmem => ?_⟩
    rcases mem_of_mem_intercalate hmem with hcomma | ⟨part, hpart, hc⟩
    · exact head.2.2.2.2 hcomma
    · obtain ⟨f, hf, rfl⟩ := List.mem_map.mp hpart
      exact fields f hf hc

/-- A name that does not end where an equals sign would end it is read back as it is. -/
theorem name_render (h : '=' ∉ t.name.toList) : (t.render p).name = t.name := by
  rw [Command.name, toList_render, Command.body]
  split
  · rw [List.append_nil, Command.halves_of_not_mem h, String.ofList_toList]
  · rw [Command.halves_append h, String.ofList_toList]

/-- The parameters are what the fields render to, cut wherever there is a comma in it. -/
theorem params_render (h : '=' ∉ t.name.toList) :
    (t.render p).params =
      t.fields.flatMap fun f => (Command.parts (f.render p).toList).map String.ofList := by
  have hname : '=' ∉ 'A' :: 'T' :: '+' :: t.name.toList := by simp [h]
  rw [Command.params, toList_render]
  by_cases hf : t.fields = []
  · rw [if_pos hf, List.append_nil, Command.halves_of_not_mem hname, hf]
    rfl
  · rw [if_neg hf, ← List.cons_append, ← List.cons_append, ← List.cons_append,
      Command.halves_append hname]
    change (Command.parts _).map String.ofList = _
    rw [Command.parts_intercalate (by simpa using hf), List.flatMap_map, List.map_flatMap]

/-- Without commas in them, the fields are the parameters one by one. -/
theorem params_render_of_not_mem (h : '=' ∉ t.name.toList)
    (hf : ∀ f ∈ t.fields, ',' ∉ (f.render p).toList) :
    (t.render p).params = t.fields.map (·.render p) := by
  rw [params_render h, List.map_eq_flatMap]
  refine List.flatMap_congr fun f hmem => ?_
  rw [Command.parts_of_not_mem (hf f hmem), List.map_singleton, String.ofList_toList]

end Template

namespace Command

/-- The line of a command, from its name and its parameters. -/
def written (name : String) (params : List String) : String :=
  "AT+" ++ name ++ if params = [] then "" else "=" ++ ",".intercalate params

theorem toList_written (name : String) (params : List String) :
    (written name params).toList = 'A' :: 'T' :: '+' :: (name.toList ++
      if params = [] then [] else '=' :: [','].intercalate (params.map String.toList)) := by
  have hat : "AT+".toList = ['A', 'T', '+'] := rfl
  have heq : "=".toList = ['='] := rfl
  have hcomma : ",".toList = [','] := rfl
  by_cases h : params = []
  · simp [written, h, hat]
  · simp [written, h, hat, heq, hcomma, String.toList_intercalate]

theorem parts_ne_nil (cs : List Char) : parts cs ≠ [] :=
  parts_eq_splitOn cs ▸ List.splitOn_ne_nil ',' cs

/-- Parts between commas, joined with commas. -/
theorem intercalate_parts (cs : List Char) : [','].intercalate (parts cs) = cs := by
  rw [parts_eq_splitOn]
  exact List.intercalate_splitOn ','

/-- A line is written from what is read from it, as long as it begins like a command. -/
theorem written_name_params {c : Command} {rest : List Char}
    (h : c.line.toList = 'A' :: 'T' :: '+' :: rest) : written c.name c.params = c.line := by
  have hname : c.name = String.ofList (halves rest).1 := by
    rw [name, h]
    rfl
  rw [← String.toList_inj, toList_written, h, hname, String.toList_ofList]
  by_cases hmem : '=' ∈ rest
  · obtain ⟨before, behind, rfl, hbefore⟩ := List.eq_append_cons_of_mem hmem
    have hhead : '=' ∉ 'A' :: 'T' :: '+' :: before := by simp [hbefore]
    have hparams : c.params = (parts behind).map String.ofList := by
      rw [params, h, ← List.cons_append, ← List.cons_append, ← List.cons_append,
        halves_append hhead]
    have htexts : c.params.map String.toList = parts behind := by
      rw [hparams, List.map_map]
      exact List.map_id'' (fun _ => String.toList_ofList) _
    have hsome : c.params ≠ [] := by
      rw [hparams]
      exact fun hnil => parts_ne_nil behind (List.map_eq_nil_iff.mp hnil)
    rw [halves_append hbefore, if_neg hsome, htexts, intercalate_parts]
  · have hhead : '=' ∉ 'A' :: 'T' :: '+' :: rest := by simp [hmem]
    have hparams : c.params = [] := by
      rw [params, h, halves_of_not_mem hhead]
    rw [halves_of_not_mem hmem, hparams, if_pos rfl, List.append_nil]

end Command

namespace Template

/-- What a template writes, with any values in its fields, reads back as its name and its values
cut at their commas; what else begins like a command is what its name and its parameters write. -/
theorem render_inverse :
    (∀ (t : Template) (p : Parameters), '=' ∉ t.name.toList →
      (t.render p).line = Command.written t.name (t.fields.map (·.render p)) ∧
      (t.render p).name = t.name ∧
      (t.render p).params = t.fields.flatMap
        (fun f => ((f.render p).toList.splitOn ',').map String.ofList) ∧
      ((∀ f ∈ t.fields, ',' ∉ (f.render p).toList) →
        (t.render p).params = t.fields.map (·.render p)) ∧
      ((t.render p).params = [] ↔ t.fields = []) ∧
      ∀ f, t.fields = [f] → f.render p = "" → (t.render p).params = [""]) ∧
    ∀ c : Command, "AT+".toList <+: c.line.toList → Command.written c.name c.params = c.line := by
  refine ⟨?_, ?_⟩
  · intro t p h
    have hparams := params_render (p := p) h
    refine ⟨?_, name_render h, ?_, params_render_of_not_mem h, ?_, ?_⟩
    · rw [← String.toList_inj, toList_render, Command.toList_written, List.map_map]
      simp only [List.map_eq_nil_iff, Function.comp_def]
    · rw [hparams]
      simp only [Command.parts_eq_splitOn]
    · rw [hparams, List.flatMap_eq_nil_iff]
      constructor
      · intro hnil
        refine List.eq_nil_iff_forall_not_mem.mpr fun f hf => ?_
        exact Command.parts_ne_nil _ (List.map_eq_nil_iff.mp (hnil f hf))
      · intro hfields f hf
        rw [hfields] at hf
        cases hf
    · intro f hfields hempty
      rw [hparams, hfields, List.flatMap_cons, hempty]
      rfl
  · rintro c ⟨rest, hrest⟩
    exact Command.written_name_params hrest.symm

/-- A name that begins like a command, an equals sign in a value and an empty value come back. -/
theorem nested_render_inverse :
    let t : Template := ⟨"AT+X", [.ssid, .literal ""]⟩
    let c := t.render { ssid := "a=b,AT+" }
    '=' ∉ t.name.toList ∧ "AT+".toList <+: c.line.toList ∧ c.name = "AT+X" ∧
      c.params = ["a=b", "AT+", ""] ∧ Command.written "AT+X" ["a=b", "AT+", ""] = c.line := by
  intro t c
  have hplain : '=' ∉ t.name.toList := by decide
  have hbegins : "AT+".toList <+: c.line.toList := by decide
  obtain ⟨-, hname, hparams, -⟩ := render_inverse.1 t { ssid := "a=b,AT+" } hplain
  have hparams : c.params = ["a=b", "AT+", ""] := hparams.trans (by decide)
  have hback := render_inverse.2 c hbegins
  rw [hname, hparams] at hback
  exact ⟨hplain, hbegins, hname, hparams, hback⟩

end Template

end ModemBench
