import Mathlib
import ModemBench.Proofs.Provenance
/-!
The bytes of a modem as one stream. What is queued, and every reply that is released, comes into it
as a whole and at one place; what the host reads is the stream from its beginning on. Where a reply
comes into it, and whether it does, follows from what has happened and not from how the modem keeps
count.
-/

namespace ModemBench

namespace Modem

/-- What may be done with a modem. -/
inductive Operation where
  | enqueue (bytes : Bytes)
  | script (r : Reply)
  | scriptAll (replies : List Bytes)
  | limitWrites (n : Nat)
  | limitReads (n : Nat)
  | failNextWrite (kind : IoKind)
  | failLine (line : Nat) (kind : IoKind)
  | write (bytes : Bytes)
  | read (cap : Nat)
  | clear
deriving Repr, DecidableEq

/-- What happens then, as far as it can be told from outside. -/
inductive Event where
  | queued (bytes : Bytes)
  | scripted (r : Reply)
  /-- The end of a line was taken. -/
  | line
  /-- A read came to the end of its time. -/
  | silence
  | given (bytes : Bytes)
  | dropped (bytes : Bytes)
deriving Repr, DecidableEq

/-- The lines that end within some bytes. -/
def lineEnds (bytes : Bytes) : List Event :=
  (bytes.filter (· = 0x0A)).map fun _ => .line

def perform : Operation → Modem → List Event × Modem
  | .enqueue bytes, m => ([.queued bytes], m.enqueue bytes)
  | .script r, m => ([.scripted r], m.scriptReply r)
  | .scriptAll replies, m => (replies.map (.scripted ⟨·, 0⟩), m.scriptReplies replies)
  | .limitWrites n, m => ([], m.limitWrites n)
  | .limitReads n, m => ([], m.limitReads n)
  | .failNextWrite kind, m => ([], m.failNextWrite kind)
  | .failLine line kind, m => ([], m.failLine line kind)
  | .write bytes, m =>
    match m.write bytes with
    | (.ok n, m) => (lineEnds (bytes.take n), m)
    | (.error _, m) => ([], m)
  | .read cap, m =>
    match m.read cap with
    | (.ok bytes, m) => ([.given bytes], m)
    | (.error _, m) => ([.silence], m)
  | .clear, m => ([.dropped m.waiting], m.clear)

/-- Operations in order on a modem that is new: what happens, and the modem behind them. -/
def history (operations : List Operation) : List Event × Modem :=
  operations.foldl (fun (es, m) operation =>
    let (more, m) := m.perform operation
    (es ++ more, m)) ([], {})

namespace Event

/-- The bytes that reads gave. -/
def read (es : List Event) : Bytes :=
  es.flatMap fun
    | given bytes => bytes
    | _ => []

/-- The bytes that are no longer waiting: they were read or dropped. -/
def gone (es : List Event) : Bytes :=
  es.flatMap fun
    | given bytes | dropped bytes => bytes
    | _ => []

def script (es : List Event) : List Reply :=
  es.filterMap fun
    | scripted r => some r
    | _ => none

/-- The replies scripted and not released, when each line releases the oldest of them. -/
def unreleased (es : List Event) : List Reply :=
  es.foldl (fun left e =>
    match e with
    | scripted r => left ++ [r]
    | line => left.tail
    | _ => left) []

theorem gone_append (es es' : List Event) : gone (es ++ es') = gone es ++ gone es' :=
  List.flatMap_append

end Event

/-- Bytes that come into the stream together. Events are counted from the first. -/
structure Block where
  /-- The event that queued the bytes, or released the reply they are. -/
  origin : Nat
  /-- The event with which they can be read. -/
  landed : Nat
  bytes : Bytes

/-- Of the blocks that land together the one released first comes first. -/
def Block.Before (b b' : Block) : Prop :=
  b.landed < b'.landed ∨ b.landed = b'.landed ∧ b.origin < b'.origin

/-- The block that lands with an event, behind all those before. -/
inductive Landing (before : List Event) : Event → Block → Prop where
  | queued (bytes : Bytes) : Landing before (.queued bytes) ⟨before.length, before.length, bytes⟩
  | prompt (first : (Event.unreleased before).head? = some r) (delay : r.delay = 0) :
      Landing before .line ⟨before.length, before.length, r.bytes⟩
  | late (split : before = earlier ++ .line :: since)
      (first : (Event.unreleased earlier).head? = some r)
      (delay : since.count .silence + 1 = r.delay) :
      Landing before .silence ⟨earlier.length, before.length, r.bytes⟩

/-- The blocks that have landed. -/
def Lands (es : List Event) (b : Block) : Prop :=
  ∃ before e after, es = before ++ e :: after ∧ Landing before e b

/-- A reply that a line has released and that has not landed, with the silent reads it still takes,
and the event that released it. -/
def Flies (es : List Event) (origin : Nat) (r : Reply) : Prop :=
  ∃ earlier since reply, es = earlier ++ .line :: since ∧ origin = earlier.length ∧
    (Event.unreleased earlier).head? = some reply ∧ r.bytes = reply.bytes ∧ 0 < r.delay ∧
    since.count .silence + r.delay = reply.delay

section

variable {es : List Event} {e : Event} {b : Block} {origin : Nat} {r : Reply}

/-- A place in events that have one more behind them is the last or an earlier one. -/
theorem split_concat {before after : List Event} {e' : Event} :
    es ++ [e] = before ++ e' :: after ↔
      es = before ∧ e = e' ∧ after = [] ∨
        ∃ after', after = after' ++ [e] ∧ es = before ++ e' :: after' := by
  rcases List.eq_nil_or_concat' after with rfl | ⟨after, last, rfl⟩
  · rw [List.append_singleton_inj]
    simp
  · rw [← List.cons_append, ← List.append_assoc, List.append_singleton_inj]
    constructor
    · rintro ⟨hes, rfl⟩
      exact .inr ⟨after, rfl, hes⟩
    · rintro (⟨-, -, hnil⟩ | ⟨after', hafter, hes⟩)
      · exact absurd hnil (by simp)
      · obtain ⟨rfl, rfl⟩ := List.append_singleton_inj.mp hafter
        exact ⟨hes, rfl⟩

theorem unreleased_concat (es : List Event) (e : Event) :
    Event.unreleased (es ++ [e]) = match e with
      | .scripted r => Event.unreleased es ++ [r]
      | .line => (Event.unreleased es).tail
      | _ => Event.unreleased es := by
  unfold Event.unreleased
  rw [List.foldl_append]
  cases e <;> rfl

theorem lands_concat : Lands (es ++ [e]) b ↔ Lands es b ∨ Landing es e b := by
  constructor
  · rintro ⟨before, e', after, split, h⟩
    rcases split_concat.mp split with ⟨rfl, rfl, rfl⟩ | ⟨after, rfl, hes⟩
    · exact .inr h
    · exact .inl ⟨before, e', after, hes, h⟩
  · rintro (⟨before, e', after, rfl, h⟩ | h)
    · exact ⟨before, e', after ++ [e], by simp, h⟩
    · exact ⟨es, e, [], rfl, h⟩

theorem Landing.landed_eq (h : Landing es e b) : b.landed = es.length := by
  cases h <;> rfl

theorem Landing.origin_le (h : Landing es e b) : b.origin ≤ es.length := by
  cases h with
  | queued | prompt => exact Nat.le_refl _
  | late split => simp [split]

theorem Lands.lt (h : Lands es b) : b.origin < es.length ∧ b.landed < es.length := by
  obtain ⟨before, e, after, rfl, hlanding⟩ := h
  have horigin := hlanding.origin_le
  rw [hlanding.landed_eq]
  simp only [List.length_append, List.length_cons]
  omega

theorem Flies.lt (h : Flies es origin r) : origin < es.length := by
  obtain ⟨earlier, since, reply, rfl, rfl, -⟩ := h
  simp

theorem Flies.more (h : Flies es origin r) : 0 < r.delay := by
  obtain ⟨-, -, -, -, -, -, -, more, -⟩ := h
  exact more

/-- A line may release a reply, and a silent read brings those underway nearer. -/
theorem flies_concat : Flies (es ++ [e]) origin r ↔
    e = .line ∧ origin = es.length ∧ (Event.unreleased es).head? = some r ∧ 0 < r.delay ∨
      0 < r.delay ∧ Flies es origin ⟨r.bytes, [e].count .silence + r.delay⟩ := by
  constructor
  · rintro ⟨earlier, since, reply, split, rfl, first, hbytes, more, hdelay⟩
    rcases split_concat.mp split with ⟨rfl, rfl, rfl⟩ | ⟨since, rfl, rfl⟩
    · rw [List.count_nil, Nat.zero_add] at hdelay
      obtain rfl : r = reply := by
        cases r
        cases reply
        exact (Reply.mk.injEq ..).mpr ⟨hbytes, hdelay⟩
      exact .inl ⟨rfl, rfl, first, more⟩
    · rw [List.count_append, Nat.add_assoc] at hdelay
      exact .inr ⟨more, earlier, since, reply, rfl, rfl, first, hbytes,
        Nat.add_pos_right _ more, hdelay⟩
  · rintro (⟨rfl, rfl, first, more⟩ | ⟨more, hflies⟩)
    · exact ⟨es, [], r, rfl, rfl, first, rfl, more, Nat.zero_add _⟩
    · obtain ⟨earlier, since, reply, rfl, rfl, first, hbytes, -, hdelay⟩ := hflies
      refine ⟨earlier, since ++ [e], reply, by simp, rfl, first, hbytes, more, ?_⟩
      rwa [List.count_append, Nat.add_assoc]

theorem flies_concat_silence : Flies (es ++ [.silence]) origin r ↔
    0 < r.delay ∧ Flies es origin ⟨r.bytes, r.delay + 1⟩ := by
  have hcount : [Event.silence].count .silence = 1 := rfl
  rw [flies_concat, hcount, Nat.add_comm]
  simp

theorem landing_queued {bytes : Bytes} :
    Landing es (.queued bytes) b ↔ b = ⟨es.length, es.length, bytes⟩ := by
  constructor
  · rintro ⟨⟩
    rfl
  · rintro rfl
    exact .queued bytes

theorem landing_line : Landing es .line b ↔ ∃ r, (Event.unreleased es).head? = some r ∧
    r.delay = 0 ∧ b = ⟨es.length, es.length, r.bytes⟩ := by
  constructor
  · rintro (_ | ⟨first, hdelay⟩)
    exact ⟨_, first, hdelay, rfl⟩
  · rintro ⟨r, first, hdelay, rfl⟩
    exact .prompt first hdelay

/-- A silent read lands what takes no other. -/
theorem landing_silence : Landing es .silence b ↔
    b.landed = es.length ∧ Flies es b.origin ⟨b.bytes, 1⟩ := by
  constructor
  · rintro (_ | _ | ⟨rfl, first, hdelay⟩)
    exact ⟨rfl, _, _, _, rfl, rfl, first, rfl, Nat.one_pos, hdelay⟩
  · rcases b with ⟨origin, landed, bytes⟩
    rintro ⟨rfl, earlier, since, reply, hes, rfl, first, rfl, -, hdelay⟩
    exact .late hes first hdelay

end

theorem release_nil {m : Modem} (h : m.script = []) : m.release = m := by
  rw [release, h]

theorem release_prompt {m : Modem} {r : Reply} {rest : List Reply} (h : m.script = r :: rest)
    (hr : r.delay = 0) :
    m.release = { m with script := rest, waiting := m.waiting ++ r.bytes } := by
  simp only [release, h, if_pos hr]

theorem release_late {m : Modem} {r : Reply} {rest : List Reply} (h : m.script = r :: rest)
    (hr : r.delay ≠ 0) :
    m.release = { m with script := rest, underway := m.underway ++ [r] } := by
  simp only [release, h, if_neg hr]

theorem accept_end (m : Modem) : m.accept 0x0A =
    release { m with held := [], lines := m.lines ++ [(0x0A :: m.held).reverse] } := by
  unfold accept
  exact if_pos rfl

/-- A reply underway after one more silent read. -/
def nearer (u : Nat × Reply) : Nat × Reply := (u.1, { u.2 with delay := u.2.delay - 1 })

theorem mem_map_nearer {flights : List (Nat × Reply)} (more : ∀ u ∈ flights, 0 < u.2.delay)
    {origin delay : Nat} {bytes : Bytes} :
    (origin, ⟨bytes, delay⟩) ∈ flights.map nearer ↔ (origin, ⟨bytes, delay + 1⟩) ∈ flights := by
  constructor
  · intro hmem
    obtain ⟨u, hu, hnearer⟩ := List.mem_map.mp hmem
    have hdelay := Nat.sub_add_cancel (more u hu)
    cases hnearer
    rwa [hdelay]
  · exact fun hmem => List.mem_map.mpr ⟨_, hmem, rfl⟩

/-- The replies that land with a silent read, out of those underway. -/
def arriving (flights : List (Nat × Reply)) : List (Nat × Reply) :=
  (flights.map nearer).filter (·.2.delay = 0)

/-- Those that do not. -/
def remaining (flights : List (Nat × Reply)) : List (Nat × Reply) :=
  (flights.map nearer).filter (·.2.delay ≠ 0)

theorem arriving_remaining_perm (flights : List (Nat × Reply)) :
    ((arriving flights).map Prod.fst ++ (remaining flights).map Prod.fst).Perm
      (flights.map Prod.fst) := by
  have hperm : (arriving flights ++ remaining flights).Perm (flights.map nearer) := by
    have h := List.filter_append_perm (fun u : Nat × Reply => u.2.delay = 0) (flights.map nearer)
    simpa [arriving, remaining] using h
  have hsame : (flights.map nearer).map Prod.fst = flights.map Prod.fst := by simp [nearer]
  rw [← List.map_append, ← hsame]
  exact hperm.map Prod.fst

/-- How what has happened accounts for the bytes and the replies of a modem. -/
structure Accounts (es : List Event) (m : Modem) (blocks : List Block)
    (flights : List (Nat × Reply)) : Prop where
  script : m.script = Event.unreleased es
  lines : m.lines.length = es.count .line
  underway : m.underway = flights.map Prod.snd
  flying : ∀ u, u ∈ flights ↔ Flies es u.1 u.2
  /-- The replies underway stand in the order in which they were released. -/
  inOrder : flights.Pairwise (·.1 < ·.1)
  landed : ∀ b, b ∈ blocks ↔ Lands es b
  landing : blocks.Pairwise Block.Before
  /-- Nothing lands twice, and nothing that has landed is underway. -/
  once : (blocks.map Block.origin ++ flights.map Prod.fst).Nodup
  /-- What is gone and what is waiting are the blocks, one behind the other. -/
  stream : Event.gone es ++ m.waiting = blocks.flatMap Block.bytes

namespace Accounts

variable {es : List Event} {m : Modem} {blocks : List Block} {flights : List (Nat × Reply)}

theorem nil : Accounts [] {} [] [] where
  script := rfl
  lines := rfl
  underway := rfl
  flying u := by simp [Flies]
  inOrder := .nil
  landed b := by simp [Lands]
  landing := .nil
  once := .nil
  stream := rfl

/-- What the account does not speak of may change. -/
theorem of_same {m' : Modem} (h : Accounts es m blocks flights) (waiting : m'.waiting = m.waiting)
    (script : m'.script = m.script) (underway : m'.underway = m.underway)
    (lines : m'.lines = m.lines) : Accounts es m' blocks flights where
  script := script.trans h.script
  lines := (congrArg List.length lines).trans h.lines
  underway := underway.trans h.underway
  flying := h.flying
  inOrder := h.inOrder
  landed := h.landed
  landing := h.landing
  once := h.once
  stream := by rw [waiting, h.stream]

section

variable {e : Event} {new : List Block}

theorem landed_concat (h : Accounts es m blocks flights) (hnew : ∀ b, b ∈ new ↔ Landing es e b) :
    ∀ b, b ∈ blocks ++ new ↔ Lands (es ++ [e]) b := by
  intro b
  rw [List.mem_append, lands_concat, h.landed, hnew]

/-- What lands now lands behind all that has landed. -/
theorem landing_concat (h : Accounts es m blocks flights) (hnew : ∀ b ∈ new, Landing es e b)
    (inOrder : new.Pairwise (·.origin < ·.origin)) : (blocks ++ new).Pairwise Block.Before := by
  refine List.pairwise_append.mpr ⟨h.landing, ?_, ?_⟩
  · refine inOrder.imp_of_mem fun hb hb' hlt => .inr ⟨?_, hlt⟩
    rw [(hnew _ hb).landed_eq, (hnew _ hb').landed_eq]
  · intro b hb b' hb'
    rw [Block.Before, (hnew b' hb').landed_eq]
    exact .inl ((h.landed b).mp hb).lt.2

/-- No event before is this one. -/
theorem fresh (h : Accounts es m blocks flights) :
    es.length ∉ blocks.map Block.origin ++ flights.map Prod.fst := by
  intro hmem
  rcases List.mem_append.mp hmem with hmem | hmem
  · obtain ⟨b, hb, horigin⟩ := List.mem_map.mp hmem
    exact absurd horigin ((h.landed b).mp hb).lt.1.ne
  · obtain ⟨u, hu, horigin⟩ := List.mem_map.mp hmem
    exact absurd horigin ((h.flying u).mp hu).lt.ne

/-- An event may land a block or let a reply go, one of the two at most. -/
theorem grow {m' : Modem} {released : List (Nat × Reply)} (h : Accounts es m blocks flights)
    (silence : e ≠ .silence) (script : m'.script = Event.unreleased (es ++ [e]))
    (lines : m'.lines.length = (es ++ [e]).count .line)
    (underway : m'.underway = m.underway ++ released.map Prod.snd)
    (stream : Event.gone [e] ++ m'.waiting = m.waiting ++ new.flatMap Block.bytes)
    (hnew : ∀ b, b ∈ new ↔ Landing es e b)
    (hreleased : ∀ u, u ∈ released ↔ e = .line ∧ u.1 = es.length ∧
      (Event.unreleased es).head? = some u.2 ∧ 0 < u.2.delay)
    (one : (new.map Block.origin ++ released.map Prod.fst).Sublist [es.length]) :
    Accounts (es ++ [e]) m' (blocks ++ new) (flights ++ released) := by
  have hcount : [e].count .silence = 0 := List.count_eq_zero.mpr (by simpa using silence.symm)
  have hpairs : (new.map Block.origin ++ released.map Prod.fst).Pairwise (· < ·) :=
    (List.pairwise_singleton _ _).sublist one
  obtain ⟨hblocks, hflights, -⟩ := List.pairwise_append.mp hpairs
  refine ⟨script, lines, ?_, ?_, ?_, h.landed_concat hnew,
    h.landing_concat (fun b => (hnew b).mp) (List.pairwise_map.mp hblocks), ?_, ?_⟩
  · rw [underway, h.underway, List.map_append]
  · intro u
    rw [List.mem_append, h.flying, hreleased, flies_concat, hcount, Nat.zero_add, or_comm]
    exact or_congr_right ⟨fun hu => ⟨hu.more, hu⟩, And.right⟩
  · refine List.pairwise_append.mpr ⟨h.inOrder, List.pairwise_map.mp hflights, ?_⟩
    intro u hu v hv
    rw [((hreleased v).mp hv).2.1]
    exact ((h.flying u).mp hu).lt
  · have hperm : ((blocks ++ new).map Block.origin ++ (flights ++ released).map Prod.fst).Perm
        ((blocks.map Block.origin ++ flights.map Prod.fst) ++
          (new.map Block.origin ++ released.map Prod.fst)) := by
      simp only [List.map_append, List.append_assoc]
      exact (List.perm_append_comm_assoc _ _ _).append_left _
    refine hperm.nodup_iff.mpr (h.once.append (List.nodup_singleton _ |>.sublist one) ?_)
    intro n hn hmem
    rw [List.mem_singleton.mp (one.subset hmem)] at hn
    exact h.fresh hn
  · rw [Event.gone_append, List.append_assoc, stream, ← List.append_assoc, h.stream,
      List.flatMap_append]

end

/-- A silent read lands the replies that take no other, and brings the others nearer. -/
theorem land (h : Accounts es m blocks flights) :
    Accounts (es ++ [.silence]) m.land
      (blocks ++ (arriving flights).map fun u => ⟨u.1, es.length, u.2.bytes⟩)
      (remaining flights) := by
  have hmore : ∀ u ∈ flights, 0 < u.2.delay := fun u hu => ((h.flying u).mp hu).more
  have hnew : ∀ b, b ∈ (arriving flights).map (fun u => (⟨u.1, es.length, u.2.bytes⟩ : Block)) ↔
      Landing es .silence b := by
    rintro ⟨origin, landed, bytes⟩
    rw [landing_silence, ← h.flying (origin, ⟨bytes, 1⟩), ← mem_map_nearer hmore, List.mem_map]
    constructor
    · rintro ⟨⟨origin, bytes, delay⟩, hu, ⟨⟩⟩
      obtain ⟨hmem, hdelay⟩ := List.mem_filter.mp hu
      obtain rfl : delay = 0 := of_decide_eq_true hdelay
      exact ⟨rfl, hmem⟩
    · rintro ⟨rfl, hmem⟩
      exact ⟨_, List.mem_filter.mpr ⟨hmem, rfl⟩, rfl⟩
  have hnearer : m.underway.map (fun r => { r with delay := r.delay - 1 }) =
      (flights.map nearer).map Prod.snd := by simp [h.underway, nearer]
  have hsorted : (flights.map nearer).Pairwise (·.1 < ·.1) := List.pairwise_map.mpr h.inOrder
  refine ⟨?_, ?_, ?_, ?_, hsorted.filter _, h.landed_concat hnew,
    h.landing_concat (fun b => (hnew b).mp) (List.pairwise_map.mpr (hsorted.filter _)), ?_, ?_⟩
  · rw [unreleased_concat]
    exact h.script
  · rw [List.count_append]
    exact h.lines
  · change (m.underway.map fun r => { r with delay := r.delay - 1 }).filter (·.delay ≠ 0) = _
    rw [hnearer, List.filter_map]
    rfl
  · rintro ⟨origin, bytes, delay⟩
    rw [flies_concat_silence, ← h.flying (origin, ⟨bytes, delay + 1⟩), ← mem_map_nearer hmore,
      remaining, List.mem_filter, and_comm, decide_eq_true_iff, Nat.pos_iff_ne_zero]
  · rw [List.map_append, List.map_map, List.append_assoc]
    exact ((arriving_remaining_perm flights).append_left _).nodup_iff.mpr h.once
  · have hgone : Event.gone [.silence] = [] := rfl
    rw [Event.gone_append, hgone, List.append_nil, List.flatMap_append, ← h.stream, Modem.land,
      hnearer, arriving, List.filter_map, List.append_assoc, List.flatMap_map, List.flatMap_map]
    rfl

end Accounts

/-- What has happened accounts for a modem. -/
def Accounted (es : List Event) (m : Modem) : Prop :=
  ∃ blocks flights, Accounts es m blocks flights

namespace Accounted

variable {es : List Event} {m : Modem}

theorem enqueue (h : Accounted es m) (bytes : Bytes) :
    Accounted (es ++ [.queued bytes]) (m.enqueue bytes) := by
  obtain ⟨blocks, flights, h⟩ := h
  have hnew : ∀ b, b ∈ [(⟨es.length, es.length, bytes⟩ : Block)] ↔
      Landing es (.queued bytes) b := fun b => by rw [List.mem_singleton, landing_queued]
  have hnone : ∀ u : Nat × Reply, u ∈ [] ↔ Event.queued bytes = .line ∧ u.1 = es.length ∧
      (Event.unreleased es).head? = some u.2 ∧ 0 < u.2.delay := by simp
  refine ⟨_, _, h.grow nofun ?_ ?_ (List.append_nil _).symm ?_ hnew hnone (List.Sublist.refl _)⟩
  · rw [unreleased_concat]
    exact h.script
  · rw [List.count_append]
    exact h.lines
  · simp [Event.gone, Modem.enqueue]

/-- An event that lands nothing and lets no reply go. -/
theorem calm {e : Event} {m' : Modem} (h : Accounted es m) (nothing : ∀ b, ¬Landing es e b)
    (line : e ≠ .line) (silence : e ≠ .silence) (script : m'.script = Event.unreleased (es ++ [e]))
    (lines : m'.lines = m.lines) (underway : m'.underway = m.underway)
    (stream : Event.gone [e] ++ m'.waiting = m.waiting) : Accounted (es ++ [e]) m' := by
  obtain ⟨blocks, flights, h⟩ := h
  have hcount : [e].count .line = 0 := List.count_eq_zero.mpr (by simpa using line.symm)
  have hnew : ∀ b, b ∈ [] ↔ Landing es e b := fun b => by simpa using nothing b
  have hnone : ∀ u : Nat × Reply, u ∈ [] ↔ e = .line ∧ u.1 = es.length ∧
      (Event.unreleased es).head? = some u.2 ∧ 0 < u.2.delay := by simp [line]
  refine ⟨_, _, h.grow silence script ?_ ?_ ?_ hnew hnone (List.nil_sublist _)⟩
  · rw [lines, h.lines, List.count_append, hcount, Nat.add_zero]
  · rw [underway, List.map_nil, List.append_nil]
  · rw [stream, List.flatMap_nil, List.append_nil]

theorem of_same {m' : Modem} (h : Accounted es m) (waiting : m'.waiting = m.waiting)
    (script : m'.script = m.script) (underway : m'.underway = m.underway)
    (lines : m'.lines = m.lines) : Accounted es m' := by
  obtain ⟨blocks, flights, h⟩ := h
  exact ⟨blocks, flights, h.of_same waiting script underway lines⟩

theorem script (h : Accounted es m) : m.script = Event.unreleased es := by
  obtain ⟨blocks, flights, h⟩ := h
  exact h.script

theorem scriptReply (h : Accounted es m) (r : Reply) :
    Accounted (es ++ [.scripted r]) (m.scriptReply r) := by
  refine h.calm nofun nofun nofun ?_ rfl rfl rfl
  rw [unreleased_concat]
  exact congrArg (· ++ [r]) h.script

theorem given (h : Accounted es m) {bytes left : Bytes} (split : bytes ++ left = m.waiting) :
    Accounted (es ++ [.given bytes]) (m.withWaiting left) := by
  refine h.calm nofun nofun nofun ?_ rfl rfl ?_
  · rw [unreleased_concat]
    exact h.script
  · simpa [Event.gone, withWaiting] using split

theorem clear (h : Accounted es m) : Accounted (es ++ [.dropped m.waiting]) m.clear := by
  refine h.calm nofun nofun nofun ?_ rfl rfl ?_
  · rw [unreleased_concat]
    exact h.script
  · simp [Event.gone, Modem.clear]

/-- The end of a line lets the oldest reply go, if there is one. -/
theorem release {m' : Modem} (h : Accounted es m) (script : m'.script = m.script)
    (waiting : m'.waiting = m.waiting) (underway : m'.underway = m.underway)
    (lines : m'.lines.length = m.lines.length + 1) :
    Accounted (es ++ [.line]) m'.release := by
  obtain ⟨blocks, flights, h⟩ := h
  have hscript : m'.script = Event.unreleased es := script.trans h.script
  have htail : Event.unreleased (es ++ [.line]) = m'.script.tail := by
    rw [unreleased_concat, hscript]
  have hlines : m'.lines.length = (es ++ [Event.line]).count .line := by
    simp [lines, h.lines]
  have hgone : Event.gone [.line] = [] := rfl
  -- No reply is left, or the oldest lands at once, or it goes underway.
  cases hleft : m'.script with
  | nil =>
    rw [hleft] at hscript htail
    have hnew : ∀ b, b ∈ [] ↔ Landing es .line b := by simp [landing_line, ← hscript]
    have hnone : ∀ u : Nat × Reply, u ∈ [] ↔ Event.line = .line ∧ u.1 = es.length ∧
        (Event.unreleased es).head? = some u.2 ∧ 0 < u.2.delay := by simp [← hscript]
    rw [release_nil hleft]
    refine ⟨_, _, h.grow nofun ?_ hlines ?_ ?_ hnew hnone (List.nil_sublist _)⟩
    · exact hleft.trans htail.symm
    · simpa using underway
    · simpa [hgone] using waiting
  | cons r rest =>
    rw [hleft] at hscript htail
    by_cases hdelay : r.delay = 0
    · have hnew : ∀ b, b ∈ [(⟨es.length, es.length, r.bytes⟩ : Block)] ↔ Landing es .line b := by
        simp [landing_line, ← hscript, hdelay]
      have hnone : ∀ u : Nat × Reply, u ∈ [] ↔ Event.line = .line ∧ u.1 = es.length ∧
          (Event.unreleased es).head? = some u.2 ∧ 0 < u.2.delay := by
        intro u
        refine ⟨nofun, ?_⟩
        rintro ⟨-, -, first, more⟩
        rw [← hscript] at first
        obtain rfl := Option.some.inj first
        exact absurd hdelay more.ne'
      rw [release_prompt hleft hdelay]
      refine ⟨_, _, h.grow nofun htail.symm hlines ?_ ?_ hnew hnone (List.Sublist.refl _)⟩
      · simpa using underway
      · simp [hgone, waiting]
    · have hnew : ∀ b, b ∈ [] ↔ Landing es .line b := by simp [landing_line, ← hscript, hdelay]
      have hreleased : ∀ u, u ∈ [(es.length, r)] ↔ Event.line = .line ∧ u.1 = es.length ∧
          (Event.unreleased es).head? = some u.2 ∧ 0 < u.2.delay := by
        rintro ⟨origin, reply⟩
        rw [List.mem_singleton, ← hscript]
        constructor
        · rintro ⟨⟩
          exact ⟨rfl, rfl, rfl, Nat.pos_of_ne_zero hdelay⟩
        · rintro ⟨-, rfl, ⟨⟩, -⟩
          rfl
      rw [release_late hleft hdelay]
      refine ⟨_, _, h.grow nofun htail.symm hlines ?_ ?_ hnew hreleased (List.Sublist.refl _)⟩
      · simp [underway]
      · simpa [hgone] using waiting

theorem accept (h : Accounted es m) (bytes : Bytes) :
    Accounted (es ++ lineEnds bytes) (bytes.foldl Modem.accept m) := by
  induction bytes generalizing es m with
  | nil => simpa [lineEnds] using h
  | cons b bytes ih =>
    rw [List.foldl_cons]
    by_cases hb : b = 0x0A
    · subst hb
      have hends : lineEnds (0x0A :: bytes) = [.line] ++ lineEnds bytes := rfl
      rw [hends, ← List.append_assoc, accept_end]
      exact ih (h.release rfl rfl rfl (by simp))
    · have hends : lineEnds (b :: bytes) = lineEnds bytes := by simp [lineEnds, hb]
      have haccept : m.accept b = { m with held := b :: m.held } := by
        unfold Modem.accept
        exact if_neg hb
      rw [hends, haccept]
      exact ih (h.of_same rfl rfl rfl rfl)

theorem land (h : Accounted es m) : Accounted (es ++ [.silence]) m.land := by
  obtain ⟨blocks, flights, h⟩ := h
  exact ⟨_, _, h.land⟩

theorem scriptReplies (h : Accounted es m) (replies : List Bytes) :
    Accounted (es ++ replies.map (.scripted ⟨·, 0⟩)) (m.scriptReplies replies) := by
  induction replies generalizing es m with
  | nil =>
    rw [List.map_nil, List.append_nil]
    exact h.of_same rfl (List.append_nil _) rfl rfl
  | cons bytes replies ih =>
    have hrest := ih (h.scriptReply ⟨bytes, 0⟩)
    rw [List.append_assoc] at hrest
    refine hrest.of_same rfl ?_ rfl rfl
    simp [Modem.scriptReplies, Modem.scriptReply]

theorem perform (h : Accounted es m) (operation : Operation) :
    Accounted (es ++ (m.perform operation).1) (m.perform operation).2 := by
  have hnone (m' : Modem) (h' : Accounted es m') : Accounted (es ++ []) m' := by
    rwa [List.append_nil]
  cases operation with
  | enqueue bytes => exact h.enqueue bytes
  | script r => exact h.scriptReply r
  | scriptAll replies => exact h.scriptReplies replies
  | limitWrites | limitReads | failNextWrite | failLine =>
    exact hnone _ (h.of_same rfl rfl rfl rfl)
  | write bytes =>
    unfold Modem.perform
    dsimp only
    split
    · next n m' hwrite =>
      obtain rfl := write_eq_ok hwrite
      exact (h.accept (bytes.take n)).of_same rfl rfl rfl rfl
    · next e m' hwrite =>
      rcases write_eq_error hwrite with ⟨_, -, -, rfl⟩ | ⟨_, _, -, -, -, rfl⟩ <;>
        exact hnone _ (h.of_same rfl rfl rfl rfl)
  | read cap =>
    unfold Modem.perform
    dsimp only
    split
    · next bytes m' hread =>
      obtain ⟨-, ⟨left, hsplit⟩, rfl, -⟩ := read_eq_ok hread
      rw [← hsplit, List.drop_left]
      exact h.given hsplit
    · next e m' hread =>
      obtain ⟨rfl, -⟩ := read_eq_error hread
      have hcounted : Accounted es { m with emptyReads := m.emptyReads + 1 } :=
        h.of_same rfl rfl rfl rfl
      exact hcounted.land
  | clear => exact h.clear

end Accounted

theorem history_concat (operations : List Operation) (operation : Operation) :
    history (operations ++ [operation]) =
      ((history operations).1 ++ ((history operations).2.perform operation).1,
        ((history operations).2.perform operation).2) := by
  unfold history
  rw [List.foldl_append]
  rfl

theorem accounted_history (operations : List Operation) :
    Accounted (history operations).1 (history operations).2 := by
  induction operations using List.reverseRecOn with
  | nil => exact ⟨[], [], .nil⟩
  | append_singleton operations operation ih =>
    rw [history_concat]
    exact ih.perform operation

theorem unreleased_suffix (es : List Event) : Event.unreleased es <:+ Event.script es := by
  induction es using List.reverseRecOn with
  | nil => exact List.suffix_rfl
  | append_singleton es e ih =>
    have hscript : Event.script (es ++ [e]) = Event.script es ++ Event.script [e] :=
      List.filterMap_append
    rw [unreleased_concat, hscript]
    cases e with
    | scripted r =>
      obtain ⟨before, hbefore⟩ := ih
      exact ⟨before, by rw [← hbefore, List.append_assoc]; rfl⟩
    | line => exact (List.tail_suffix _).trans (by simpa [Event.script] using ih)
    | _ => simpa [Event.script] using ih

theorem gone_eq_read {es : List Event} (kept : ∀ bytes, .dropped bytes ∉ es) :
    Event.gone es = Event.read es := by
  refine List.flatMap_congr fun e he => ?_
  cases e with
  | dropped bytes => exact absurd he (kept bytes)
  | _ => rfl

theorem dropped_notMem_perform {operation : Operation} (h : operation ≠ .clear) (m : Modem)
    (bytes : Bytes) : .dropped bytes ∉ (m.perform operation).1 := by
  cases operation with
  | clear => exact absurd rfl h
  | write | read =>
    unfold perform
    dsimp only
    split <;> simp [lineEnds]
  | _ => simp [perform]

/-- Nothing but a clear drops anything. -/
theorem dropped_notMem_history {operations : List Operation}
    (kept : ∀ operation ∈ operations, operation ≠ .clear) (bytes : Bytes) :
    .dropped bytes ∉ (history operations).1 := by
  induction operations using List.reverseRecOn with
  | nil => exact List.not_mem_nil
  | append_singleton operations operation ih =>
    obtain ⟨hbefore, hlast⟩ := List.forall_mem_append.mp kept
    have hperform := dropped_notMem_perform (hlast operation (List.mem_singleton_self _))
    rw [history_concat, List.mem_append, not_or]
    exact ⟨ih hbefore, hperform _ bytes⟩

/-- Whatever is done with a modem, what has happened accounts for its bytes and its replies. Without
a clear, what was read and what is waiting are whole blocks in the order in which they landed. A
clear takes what is waiting and the line begun, and nothing else. -/
theorem byte_stream (operations : List Operation) :
    let es := (history operations).1
    let m := (history operations).2
    (∃ blocks flights, Accounts es m blocks flights ∧
      ((∀ operation ∈ operations, operation ≠ .clear) →
        Event.read es ++ m.waiting = blocks.flatMap Block.bytes)) ∧
    (∀ r ∈ m.underway, 1 ≤ r.delay) ∧ m.script <:+ Event.script es ∧
    history (operations ++ [.clear]) =
      (es ++ [.dropped m.waiting], { m with waiting := [], held := [] }) := by
  intro es m
  obtain ⟨blocks, flights, h⟩ := accounted_history operations
  refine ⟨⟨blocks, flights, h, fun kept => ?_⟩, ?_, ?_, history_concat operations .clear⟩
  · rw [← gone_eq_read (dropped_notMem_history kept)]
    exact h.stream
  · intro r hr
    rw [h.underway] at hr
    obtain ⟨u, hu, rfl⟩ := List.mem_map.mp hr
    exact ((h.flying u).mp hu).more
  · exact h.script ▸ unreleased_suffix es

/-- A late reply lands behind one that was released after it. -/
theorem late_byte_stream :
    let operations : List Operation := [.enqueue [1], .script ⟨[2, 3], 2⟩, .script ⟨[4], 0⟩,
      .write [0x0A, 0x0A], .read 8, .read 8, .read 8, .read 1]
    let es := (history operations).1
    let m := (history operations).2
    (∀ operation ∈ operations, operation ≠ .clear) ∧ Event.read es = [1, 4, 2] ∧
      m.waiting = [3] ∧ ∃ blocks flights, Accounts es m blocks flights ∧
        [1, 4, 2, 3] = blocks.flatMap Block.bytes := by
  intro operations es m
  have hkept : ∀ operation ∈ operations, operation ≠ .clear := by decide
  have hread : Event.read es = [1, 4, 2] := by decide
  have hwaiting : m.waiting = [3] := by decide
  obtain ⟨⟨blocks, flights, h, hstream⟩, -⟩ := byte_stream operations
  have hblocks : Event.read es ++ m.waiting = blocks.flatMap Block.bytes := hstream hkept
  rw [hread, hwaiting] at hblocks
  exact ⟨hkept, hread, hwaiting, blocks, flights, h, hblocks⟩

end Modem

end ModemBench
