import Mathlib.Data.List.Forall2
import Mathlib.Data.List.Nodup
import Mathlib.Tactic.IntervalCases
import ModemBench.Proofs.CommandSyntax
import ModemBench.Suite.Selection
/-!
The commands as the firmware's contract has them. Its tables are written down here on their own,
from the fields of a test in their order; the chosen commands are theirs, and nothing that the
fields say is lost on the line as long as no text has a comma in it.
-/

namespace ModemBench

namespace Contract

/-- How to reach the network by radio. -/
def wireless : List Field := [.ssid, .country, .security, .password, .txPower]

/-- How to reach it, and the modem's own address there. -/
def joined : List Field := wireless ++ [.dhcp, .staticIp]

def repeated : List Field := [.count, .interval]

def cases : Family → List Template
  | .app => [
    ⟨"TSOFTAP", wireless ++ [.literal "1", .literal "192.168.200.1", .count]⟩,
    ⟨"TFOTA", joined⟩,
    ⟨"TTCP_SERVER", joined⟩,
    ⟨"TUDP_SERVER", joined⟩,
    ⟨"TUART", joined ++ [.remoteIp]⟩,
    ⟨"TI2C", repeated⟩,
    ⟨"TSPI", repeated⟩,
    ⟨"TADC", repeated⟩,
    ⟨"TPWM", repeated⟩,
    ⟨"TMEMORY", repeated⟩,
    ⟨"TGPIO", repeated⟩,
    ⟨"TTIMER", []⟩,
    ⟨"TJSON", []⟩,
    ⟨"TXML", []⟩]
  | .iot => [⟨"TCOAP_SERVER", joined⟩]
  | .sample => [
    ⟨"TAGING_TC", joined ++ [.remoteIp]⟩,
    ⟨"TIPERF_UC", joined ++ [.remoteIp, .count]⟩,
    ⟨"TIPERF_US", joined⟩,
    ⟨"TSOCKET", joined ++ [.remoteIp]⟩]

/-- What is run without a case. -/
def sequence? : Family → Option (List Template)
  | .app => some [
    ⟨"TWIFI_STATE", joined ++ repeated⟩,
    ⟨"TTCP_CLIENT", joined ++ [.remoteIp, .count]⟩,
    ⟨"TUDP_CLIENT", joined ++ [.remoteIp, .count]⟩,
    ⟨"THTTP", joined⟩]
  | .iot => some [
    ⟨"TAWS", joined ++ repeated⟩,
    ⟨"TONEM2M", joined ++ repeated⟩,
    ⟨"TMQTT", joined ++ repeated⟩,
    ⟨"TCOAP_CLIENT", joined ++ [.remoteIp, .count, .interval]⟩]
  | .sample => none

/-- The pairs of numbers that choose nothing. -/
inductive Refused : Nat → Option Nat → UsageError → Prop where
  | unknownFamily {family : Nat} {case? : Option Nat} (beyond : 2 < family) :
      Refused family case? (.unknownFamily family)
  | unknownCase {f : Family} {n : Nat} (beyond : (cases f).length ≤ n) :
      Refused f.index (some n) (.unknownCase f n)
  | caseRequired {f : Family} (unlisted : sequence? f = none) :
      Refused f.index none (.caseRequired f)

/-- The pairs that choose something, with the templates that they choose. -/
inductive Listed : Nat → Option Nat → List Template → Prop where
  | one {f : Family} {n : Nat} {t : Template} (entry : (cases f)[n]? = some t) :
      Listed f.index (some n) [t]
  | every {f : Family} {ts : List Template} (sequence : sequence? f = some ts) :
      Listed f.index none ts

end Contract

section Tables

variable {f : Family} {family : Nat}

theorem Family.ofIndex?_eq_none : Family.ofIndex? family = none ↔ 2 < family :=
  List.getElem?_eq_none_iff

theorem Family.ofIndex?_eq_some : Family.ofIndex? family = some f ↔ family = f.index := by
  by_cases h : 2 < family
  · rw [Family.ofIndex?_eq_none.mpr h]
    cases f <;> simp only [reduceCtorEq, Family.index, false_iff] <;> omega
  · interval_cases family <;> cases f <;> decide

theorem Family.index_injective {f g : Family} (h : f.index = g.index) : f = g :=
  Option.some.inj ((Family.ofIndex?_eq_some.mpr rfl).symm.trans (Family.ofIndex?_eq_some.mpr h))

/-- The tables that are run are the contract's. -/
theorem Family.cases_contract (f : Family) : f.cases.map (·.template) = Contract.cases f := by
  cases f <;> rfl

theorem Family.sequence_contract (f : Family) : f.sequence? = Contract.sequence? f := by
  cases f <;> rfl

theorem Family.cases_length (f : Family) : f.cases.length = (Contract.cases f).length := by
  rw [← f.cases_contract, List.length_map]

end Tables

section Choice

open Contract

variable {family : Nat} {case? : Option Nat}

/-- Two numbers choose nothing, for one reason of the contract, or a list of its templates. -/
theorem ofIndices_cases (family : Nat) (case? : Option Nat) :
    (∃ e, Selection.ofIndices family case? = .error e ∧ Refused family case? e) ∨
      ∃ s, Selection.ofIndices family case? = .ok s ∧ Listed family case? s.templates := by
  rw [Selection.ofIndices]
  cases hf : Family.ofIndex? family with
  | none => exact .inl ⟨_, rfl, .unknownFamily (Family.ofIndex?_eq_none.mp hf)⟩
  | some f =>
    obtain rfl := Family.ofIndex?_eq_some.mp hf
    cases case? with
    | some n =>
      dsimp only
      split
      · next hn =>
        refine .inr ⟨_, rfl, .one ?_⟩
        rw [← f.cases_contract, List.getElem?_map, List.getElem?_eq_getElem hn, Option.map_some]
      · next hn =>
        exact .inl ⟨_, rfl, .unknownCase (f.cases_length ▸ Nat.le_of_not_lt hn)⟩
    | none =>
      dsimp only
      split
      · next ts hts => exact .inr ⟨_, rfl, .every (f.sequence_contract ▸ hts)⟩
      · next hts => exact .inl ⟨_, rfl, .caseRequired (f.sequence_contract ▸ hts)⟩

/-- Two numbers choose nothing just when the contract has a reason, which is then the error. -/
theorem ofIndices_eq_error {e : UsageError} :
    Selection.ofIndices family case? = .error e ↔ Refused family case? e := by
  refine ⟨fun h => ?_, fun h => ?_⟩
  · obtain ⟨e', he, hr⟩ | ⟨s, hs, -⟩ := ofIndices_cases family case?
    · obtain rfl := Except.error.inj (h.symm.trans he)
      exact hr
    · cases h.symm.trans hs
  · rw [Selection.ofIndices]
    cases h with
    | unknownFamily beyond => rw [Family.ofIndex?_eq_none.mpr beyond]
    | @unknownCase f n beyond =>
      rw [Family.ofIndex?_eq_some.mpr rfl]
      exact dif_neg (Nat.not_lt.mpr (f.cases_length ▸ beyond))
    | @caseRequired f unlisted =>
      rw [Family.ofIndex?_eq_some.mpr rfl]
      dsimp only
      split
      · next ts hts => cases (f.sequence_contract ▸ hts).symm.trans unlisted
      · rfl

theorem Contract.Listed.length {ts : List Template} (h : Listed family case? ts) :
    ts.length = if case?.isSome then 1 else 4 := by
  cases h with
  | one entry => rfl
  | @every f ts sequence =>
    cases f <;> cases sequence <;> rfl

theorem Contract.Listed.unique {ts us : List Template}
    (hts : Listed family case? ts) (hus : Listed family case? us) : ts = us := by
  cases hts with
  | @one f n t entry =>
    generalize hf : f.index = family at hus
    cases hus with
    | one entry' =>
      obtain rfl := Family.index_injective hf
      obtain rfl := Option.some.inj (entry.symm.trans entry')
      rfl
  | @every f ts sequence =>
    generalize hf : f.index = family at hus
    cases hus with
    | every sequence' =>
      obtain rfl := Family.index_injective hf
      exact Option.some.inj (sequence.symm.trans sequence')

end Choice

section Values

variable {p q : Parameters} {f : Field}

/-- No text among the parameters has this character in it. -/
structure Parameters.Without (c : Char) (p : Parameters) : Prop where
  ssid : c ∉ p.ssid.toList
  country : c ∉ p.country.toList
  password : c ∉ p.password.toList
  staticIp : c ∉ p.staticIp.toList
  remoteIp : c ∉ p.remoteIp.toList

namespace Field

/-- What stands for a field on the line: texts as they are, numbers in decimal, choices by their
digit. -/
def Shows (p : Parameters) : Field → String → Prop
  | ssid, s => s = p.ssid
  | country, s => s = p.country
  | security, s => p.security = .openNetwork ∧ s = "0" ∨ p.security = .wpa2 ∧ s = "1"
  | password, s => s = p.password
  | txPower, s => Text.Decimal p.txPower.toNat s
  | dhcp, s => p.dhcp = false ∧ s = "0" ∨ p.dhcp = true ∧ s = "1"
  | staticIp, s => s = p.staticIp
  | remoteIp, s => s = p.remoteIp
  | count, s => Text.Decimal p.count.toNat s
  | interval, s => Text.Decimal p.interval.toNat s
  | literal text, s => s = text

/-- Two sets of parameters have the same value for a field. -/
def Agrees (p q : Parameters) : Field → Prop
  | ssid => p.ssid = q.ssid
  | country => p.country = q.country
  | security => p.security = q.security
  | password => p.password = q.password
  | txPower => p.txPower = q.txPower
  | dhcp => p.dhcp = q.dhcp
  | staticIp => p.staticIp = q.staticIp
  | remoteIp => p.remoteIp = q.remoteIp
  | count => p.count = q.count
  | interval => p.interval = q.interval
  | literal _ => True

/-- The text of a field that does not depend on the parameters. -/
def fixed? : Field → Option String
  | literal text => some text
  | _ => none

theorem shows_render (p : Parameters) (f : Field) : f.Shows p (f.render p) := by
  cases f with
  | txPower | count | interval => exact Text.decimal_toString _
  | security =>
    cases h : p.security
    · exact .inl ⟨h, by rw [render, h]; rfl⟩
    · exact .inr ⟨h, by rw [render, h]; rfl⟩
  | dhcp =>
    cases h : p.dhcp
    · exact .inl ⟨h, by rw [render, h]; rfl⟩
    · exact .inr ⟨h, by rw [render, h]; rfl⟩
  | _ => rfl

/-- A field's value is known from what stands for it. -/
theorem Shows.agrees {s : String} (hp : f.Shows p s) (hq : f.Shows q s) : f.Agrees p q := by
  cases f with
  | txPower => exact UInt8.toNat_inj.mp (hp.unique hq)
  | count | interval => exact UInt32.toNat_inj.mp (hp.unique hq)
  | security | dhcp =>
    obtain ⟨hp, rfl⟩ | ⟨hp, rfl⟩ := hp <;> obtain ⟨hq, hs⟩ | ⟨hq, hs⟩ := hq
    · exact hp.trans hq.symm
    · exact absurd hs (by decide)
    · exact absurd hs (by decide)
    · exact hp.trans hq.symm
  | literal text => trivial
  | _ => exact hp.symm.trans hq

theorem Agrees.render (h : f.Agrees p q) : f.render p = f.render q := by
  cases f <;> simp_all [Agrees, Field.render]

/-- Only a text can bring anything but digits into a field. -/
theorem not_mem_render {c : Char} (hc : Text.isDigit c = false) (hp : p.Without c)
    (hf : ∀ text ∈ f.fixed?, c ∉ text.toList) : c ∉ (f.render p).toList := by
  have hdigit {s : String} (hs : s.toList.all Text.isDigit = true) : c ∉ s.toList := by
    intro hmem
    rw [List.all_eq_true.mp hs c hmem] at hc
    cases hc
  cases f with
  | ssid => exact hp.ssid
  | country => exact hp.country
  | password => exact hp.password
  | staticIp => exact hp.staticIp
  | remoteIp => exact hp.remoteIp
  | txPower | count | interval => exact Text.not_mem_toString hc
  | security => rw [render]; cases p.security <;> exact hdigit (by decide)
  | dhcp => rw [render]; split <;> exact hdigit (by decide)
  | literal text => exact hf text rfl

end Field

end Values

section ReadBack

open Contract

variable {family : Nat} {case? : Option Nat} {t : Template} {ts : List Template}
  {p q : Parameters}

/-- What a template itself puts on the line does not get in the way of reading it back, and does
not end it. -/
structure Template.Plain (t : Template) : Prop where
  name : '=' ∉ t.name.toList ∧ '\n' ∉ t.name.toList
  fixed : ∀ f ∈ t.fields, ∀ text ∈ f.fixed?, ',' ∉ text.toList ∧ '\n' ∉ text.toList

theorem Contract.cases_plain : ∀ t ∈ Contract.cases f, t.Plain := by
  have : ∀ t ∈ Contract.cases f, ('=' ∉ t.name.toList ∧ '\n' ∉ t.name.toList) ∧
      ∀ f ∈ t.fields, ∀ text ∈ f.fixed?, ',' ∉ text.toList ∧ '\n' ∉ text.toList := by
    cases f <;> decide
  exact fun t ht => ⟨(this t ht).1, (this t ht).2⟩

theorem Contract.sequence_plain (h : sequence? f = some ts) : ∀ t ∈ ts, t.Plain := by
  have : ∀ t ∈ ts, ('=' ∉ t.name.toList ∧ '\n' ∉ t.name.toList) ∧
      ∀ f ∈ t.fields, ∀ text ∈ f.fixed?, ',' ∉ text.toList ∧ '\n' ∉ text.toList := by
    cases f <;> cases h <;> decide
  exact fun t ht => ⟨(this t ht).1, (this t ht).2⟩

theorem Contract.Listed.plain (h : Listed family case? ts) : ∀ t ∈ ts, t.Plain := by
  cases h with
  | one entry =>
    intro t ht
    obtain rfl := List.mem_singleton.mp ht
    exact cases_plain t (List.mem_of_getElem? entry)
  | every sequence => exact sequence_plain sequence

theorem Contract.Listed.distinct (h : Listed family case? ts) : (ts.map Template.name).Nodup := by
  cases h with
  | one entry => exact List.nodup_singleton _
  | @every f ts sequence =>
    cases f <;> cases sequence <;> decide

/-- The commands of a selection differ in their names, and no line ends within one. -/
theorem resolve_single {commands : List Command} (h : resolve family case? p = .ok commands) :
    commands.Nodup ∧ (p.Without '\n' → ∀ c ∈ commands, '\n' ∉ c.line.toList) := by
  obtain ⟨e, he, -⟩ | ⟨s, hs, hl⟩ := ofIndices_cases family case?
  · rw [resolve, he] at h
    cases h
  · rw [resolve, hs] at h
    cases h
    refine ⟨?_, fun hp c hc => ?_⟩
    · have hnames : (s.commands p).map Command.name = s.templates.map Template.name := by
        rw [Selection.commands, List.map_map]
        exact List.map_congr_left fun t ht => Template.name_render (hl.plain t ht).name.1
      exact List.Nodup.of_map Command.name (hnames ▸ hl.distinct)
    · obtain ⟨t, ht, rfl⟩ := List.mem_map.mp hc
      obtain ⟨hname, hfixed⟩ := hl.plain t ht
      refine Template.not_mem_render (by decide) hname.2 fun f hf => ?_
      exact Field.not_mem_render (by decide) hp fun text htext =>
        (hfixed f hf text htext).2

/-- A command shows a template's fields one by one. -/
structure Template.ReadsBack (p : Parameters) (t : Template) (c : Command) : Prop where
  name : c.name = t.name
  params : p.Without ',' → List.Forall₂ (·.Shows p) t.fields c.params

theorem Template.Plain.readsBack (h : t.Plain) (p : Parameters) : t.ReadsBack p (t.render p) where
  name := name_render h.name.1
  params hp := by
    have hrender : ∀ f ∈ t.fields, ',' ∉ (f.render p).toList := fun f hf =>
      Field.not_mem_render (by decide) hp fun text htext => (h.fixed f hf text htext).1
    rw [params_render_of_not_mem h.name.1 hrender, List.forall₂_map_right_iff,
      List.forall₂_same]
    exact fun f _ => f.shows_render p

/-- One command can only stand for two sets of parameters that agree on the template's fields. -/
theorem Template.render_eq_iff (h : t.Plain) (hp : p.Without ',') (hq : q.Without ',') :
    t.render p = t.render q ↔ ∀ f ∈ t.fields, f.Agrees p q := by
  refine ⟨fun he => ?_, fun ha => ?_⟩
  · have hsp := (h.readsBack p).params hp
    have hsq := (h.readsBack q).params hq
    rw [← he] at hsq
    intro f hf
    obtain ⟨i, hi, rfl⟩ := List.mem_iff_getElem.mp hf
    have hlen := hsp.length_eq ▸ hi
    exact (hsp.get hi hlen).agrees (hsq.get hi hlen)
  · have : t.fields.map (·.render p) = t.fields.map (·.render q) :=
      List.map_congr_left fun f hf => (ha f hf).render
    rw [render, render, this]

/-- A pair of numbers is refused for the contract's reasons and otherwise chooses the contract's
templates, which are put on the line so that nothing of their fields is lost. -/
theorem resolve_readsBack (family : Nat) (case? : Option Nat) (p : Parameters) :
    (∀ e, resolve family case? p = .error e ↔ Refused family case? e) ∧
    ((∃ e, Refused family case? e) ∨
      ∃ ts commands, Listed family case? ts ∧ resolve family case? p = .ok commands ∧
        commands.length = (if case?.isSome then 1 else 4) ∧
        List.Forall₂ (·.ReadsBack p) ts commands ∧
        ∀ q, p.Without ',' → q.Without ',' →
          (resolve family case? q = .ok commands ↔ ∀ t ∈ ts, ∀ f ∈ t.fields, f.Agrees p q)) := by
  refine ⟨fun e => ?_, ?_⟩
  · rw [← ofIndices_eq_error, resolve]
    cases Selection.ofIndices family case? <;> simp [Except.map]
  · obtain ⟨e, -, hr⟩ | ⟨s, hs, hl⟩ := ofIndices_cases family case?
    · exact .inl ⟨e, hr⟩
    · have hresolve (q : Parameters) : resolve family case? q = .ok (s.commands q) := by
        rw [resolve, hs]
        rfl
      refine .inr ⟨s.templates, s.commands p, hl, hresolve p, ?_, ?_, fun q hp hq => ?_⟩
      · rw [Selection.commands, List.length_map, hl.length]
      · rw [Selection.commands, List.forall₂_map_right_iff, List.forall₂_same]
        exact fun t ht => (hl.plain t ht).readsBack p
      · rw [hresolve, Except.ok.injEq, Selection.commands, Selection.commands, List.map_inj_left]
        refine forall₂_congr fun t ht => ?_
        rw [eq_comm, Template.render_eq_iff (hl.plain t ht) hp hq]

/-- The loop tests say nothing of the network, so its password makes no difference to them, but
the number of repetitions does. -/
theorem resolve_loop_readsBack :
    resolve 0 (some 5) {} = .ok [⟨"AT+TI2C=10,500"⟩] ∧
    Listed 0 (some 5) [⟨"TI2C", repeated⟩] ∧
    resolve 0 (some 5) { password := "secret" } = .ok [⟨"AT+TI2C=10,500"⟩] ∧
    resolve 0 (some 5) { count := 11 } ≠ .ok [⟨"AT+TI2C=10,500"⟩] := by
  have hresolve : resolve 0 (some 5) {} = .ok [⟨"AT+TI2C=10,500"⟩] := rfl
  have hplain : ({} : Parameters).Without ',' := by constructor <;> decide
  have hsecret : ({ password := "secret" } : Parameters).Without ',' := by constructor <;> decide
  have hcount : ({ count := 11 } : Parameters).Without ',' := by constructor <;> decide
  have hlisted : Listed 0 (some 5) [⟨"TI2C", repeated⟩] := .one (f := .app) rfl
  obtain ⟨herr, ⟨e, he⟩ | ⟨ts, commands, hl, hr, -, -, hq⟩⟩ := resolve_readsBack 0 (some 5) {}
  · cases hresolve.symm.trans ((herr e).mpr he)
  · obtain rfl := Except.ok.inj (hr.symm.trans hresolve)
    obtain rfl := hl.unique hlisted
    refine ⟨hresolve, hl, (hq _ hplain hsecret).mpr ?_, fun h => ?_⟩
    · simp [repeated, Field.Agrees]
    · have := (hq _ hplain hcount).mp h _ (List.mem_singleton.mpr rfl) .count (by decide)
      exact absurd this (show (10 : UInt32) ≠ 11 by decide)

end ReadBack

end ModemBench
