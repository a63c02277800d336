import Mathlib.Data.List.Forall2
import Mathlib.Data.List.Nodup
import ModemBench.Tree.Codec
/-!
Laws of codecs. A lawful codec writes trees of its kind, reads back what is left of such a tree
after pruning, and refuses a tree that is spoilt anywhere. Codecs of single values have these laws
by themselves; a record has them from those of its slots.
-/

namespace ModemBench

/-- What a tree may say in some place. -/
inductive Kind where
  | text
  | bool
  /-- Whole numbers below the bound. -/
  | number (bound : Nat)
  | oneOf (names : List String)
  | list (item : Kind)
  | record (fields : List (String × Kind))

/-- Trees of a kind. A record says something under each of its keys, in order. -/
inductive Kind.Admits : Kind → Tree → Prop where
  | text (s : String) : Admits .text (.text s)
  | bool (b : Bool) : Admits .bool (.bool b)
  | number (n : Nat) (within : n < bound) : Admits (.number bound) (.int n)
  | oneOf (known : s ∈ names) : Admits (.oneOf names) (.text s)
  | list (each : ∀ t ∈ items, Admits item t) : Admits (.list item) (.list items)
  | record (keys : entries.map Prod.fst = fields.map Prod.fst)
      (each : ∀ p ∈ fields.zip entries, Admits p.1.2 p.2.2) :
      Admits (.record fields) (.table entries)

/-- A value without parts. -/
def Tree.Scalar : Tree → Prop
  | .list _ | .table _ => False
  | _ => True

/-- Somewhere in the tree of a record, a scalar stands in a field that does not take it: one of
another type, a number out of bounds or a name that is none of the field's. -/
inductive Kind.Spoilt : Kind → Tree → Prop where
  | scalar (leaf : ∀ fields, kind ≠ .record fields) (scalar : t.Scalar)
      (strange : ¬ kind.Admits t) : Spoilt kind t
  | field (member : (key, kind) ∈ fields) (found : entries.lookup key = some t)
      (spoilt : Spoilt kind t) : Spoilt (.record fields) (.table entries)

namespace Tree

/-- A tree without the entries that are gone, each given by the path of keys that leads to it. Any
table may have entries under other keys in their stead, and a different order. -/
inductive Pruned : (gone : List String → Bool) → (whole : Tree) → Tree → Prop where
  | leaf (plain : ∀ entries, t ≠ .table entries) : Pruned gone t t
  | table (keys : kept.map Prod.fst = (whole.map Prod.fst).filter fun key => !gone [key])
      (each : ∀ key t t', (key, t) ∈ whole → (key, t') ∈ kept →
        Pruned (fun path => gone (key :: path)) t t')
      (strange : ∀ e ∈ unknown, e.1 ∉ whole.map Prod.fst)
      (order : entries.Perm (kept ++ unknown)) :
      Pruned gone (.table whole) (.table entries)

/-- What is left under a key of a pruned table: nothing, if it is gone, and else what is left of
its tree. -/
def Left (gone : List String → Bool) (entries : List (String × Tree)) (key : String) (t : Tree) :
    Prop :=
  if gone [key] then entries.lookup key = none
  else ∃ t', entries.lookup key = some t' ∧ Pruned (fun path => gone (key :: path)) t t'

theorem Pruned.eq_of_plain {gone : List String → Bool} {t t' : Tree} (h : Pruned gone t t')
    (plain : ∀ entries, t ≠ .table entries) : t' = t := by
  cases h with
  | leaf => rfl
  | table => exact absurd rfl (plain _)

theorem Pruned.of_table {gone : List String → Bool} {whole : List (String × Tree)} {t : Tree}
    (h : Pruned gone (.table whole) t) : ∃ entries, t = .table entries := by
  cases h with
  | leaf plain => exact absurd rfl (plain _)
  | table => exact ⟨_, rfl⟩

theorem lookup_of_unique {entries : List (String × Tree)} {key : String} {t : Tree}
    (member : (key, t) ∈ entries) (unique : ∀ t', (key, t') ∈ entries → t' = t) :
    entries.lookup key = some t := by
  have hfound : (entries.lookup key).isSome = true :=
    List.lookup_isSome_iff.mpr ⟨_, member, beq_self_eq_true key⟩
  obtain ⟨t', ht⟩ := Option.isSome_iff_exists.mp hfound
  obtain ⟨before, behind, hentries, -⟩ := List.lookup_eq_some_iff.mp ht
  have hmem : (key, t') ∈ entries := by
    rw [hentries]
    exact List.mem_append_right _ List.mem_cons_self
  rw [ht, unique t' hmem]

theorem Pruned.left {gone : List String → Bool} {whole entries : List (String × Tree)}
    {key : String} {t : Tree} (h : Pruned gone (.table whole) (.table entries))
    (distinct : (whole.map Prod.fst).Nodup) (member : (key, t) ∈ whole) :
    Left gone entries key t := by
  cases h with
  | leaf plain => exact absurd rfl (plain _)
  | @table _ kept _ unknown _ keys each strange order =>
    have hkey : key ∈ whole.map Prod.fst := List.mem_map_of_mem member
    -- Entries under this key are no strangers, whatever was added.
    have hkept : ∀ e ∈ entries, e.1 = key → e ∈ kept := by
      intro e he heq
      rcases List.mem_append.mp (order.mem_iff.mp he) with hk | hu
      · exact hk
      · exact absurd (heq ▸ hkey) (strange e hu)
    unfold Left
    cases hgone : gone [key] with
    | true =>
      rw [if_pos rfl, List.lookup_eq_none_iff]
      intro e he
      by_contra hne
      have heq : e.1 = key := by
        rw [bne_iff_ne, not_not] at hne
        exact hne.symm
      have hmem := List.mem_map_of_mem (f := Prod.fst) (hkept e he heq)
      rw [keys, heq] at hmem
      simpa [hgone] using (List.mem_filter.mp hmem).2
    | false =>
      rw [if_neg Bool.false_ne_true]
      have hmem : key ∈ kept.map Prod.fst := by
        rw [keys]
        exact List.mem_filter.mpr ⟨hkey, by simp [hgone]⟩
      obtain ⟨⟨_, t'⟩, ht, rfl⟩ := List.mem_map.mp hmem
      refine ⟨t', lookup_of_unique ?_ ?_, each _ t t' member ht⟩
      · exact order.mem_iff.mpr (List.mem_append_left _ ht)
      · intro x hx
        have hnodup : (kept.map Prod.fst).Nodup := by
          rw [keys]
          exact distinct.filter _
        have heq := List.inj_on_of_nodup_map hnodup (hkept _ hx rfl) ht rfl
        exact congrArg Prod.snd heq

end Tree

/-- The laws of a codec for trees of a kind. Of a pruned tree it reads what `less` leaves of the
value, and a tree that is not pruned at all counts as one too. -/
structure Codec.Lawful {α : Type} (codec : Codec α) (kind : Kind)
    (less : (List String → Bool) → α → α) : Prop where
  admits : ∀ a, kind.Admits (codec.toTree a)
  whole : ∀ a, (codec.toTree a).Pruned (fun _ => false) (codec.toTree a)
  prunes : ∀ dialect gone a t, (codec.toTree a).Pruned gone t →
    codec.ofTree? dialect t = some (less gone a)
  refuses : ∀ dialect t, kind.Spoilt t → codec.ofTree? dialect t = none

section Values

variable {α : Type} {codec : Codec α} {kind : Kind}

/-- A value that is no record is either left as it is or not there at all. -/
theorem Codec.Lawful.leaf (leaf : ∀ fields, kind ≠ .record fields)
    (admits : ∀ a, kind.Admits (codec.toTree a))
    (back : ∀ dialect a, codec.ofTree? dialect (codec.toTree a) = some a)
    (refuses : ∀ dialect t, t.Scalar → ¬ kind.Admits t → codec.ofTree? dialect t = none) :
    codec.Lawful kind fun _ a => a := by
  have hplain (a : α) (entries : List (String × Tree)) : codec.toTree a ≠ .table entries := by
    intro he
    have hkind := he ▸ admits a
    cases hkind with
    | record keys each => exact leaf _ rfl
  refine ⟨admits, fun a => .leaf (hplain a), ?_, ?_⟩
  · intro dialect gone a t h
    rw [h.eq_of_plain (hplain a)]
    exact back dialect a
  · intro dialect t spoilt
    cases spoilt with
    | scalar _ scalar strange => exact refuses dialect t scalar strange
    | field => exact absurd rfl (leaf _)

theorem Codec.text_lawful : Codec.text.Lawful .text fun _ s => s := by
  refine .leaf (by simp) .text (fun _ _ => rfl) ?_
  intro dialect t scalar strange
  cases t with
  | text s => exact absurd (.text s) strange
  | null | bool | int | float | moment | list | table => rfl

theorem Codec.bool_lawful : Codec.bool.Lawful .bool fun _ b => b := by
  refine .leaf (by simp) .bool (fun _ _ => rfl) ?_
  intro dialect t scalar strange
  cases t with
  | bool b => exact absurd (.bool b) strange
  | null | text | int | float | moment | list | table => rfl

theorem Codec.below_lawful {bound : Nat} {toNat : α → Nat} {ofNat : Nat → α}
    (within : ∀ a, toNat a < bound) (back : ∀ a, ofNat (toNat a) = a) :
    (Codec.below bound toNat ofNat).Lawful (.number bound) fun _ a => a := by
  refine .leaf (by simp) (fun a => .number _ (within a)) ?_ ?_
  · intro dialect a
    have hrange : (0 : Int) ≤ (toNat a : Int) ∧ (toNat a : Int) < bound :=
      ⟨Int.natCast_nonneg _, Int.ofNat_lt.mpr (within a)⟩
    simp only [below, Tree.nat, hrange, and_self, ↓reduceIte, Int.toNat_natCast, back]
  · intro dialect t scalar strange
    cases t with
    | int n =>
      have hrange : ¬ (0 ≤ n ∧ n < bound) := by
        rintro ⟨hlow, hhigh⟩
        obtain ⟨m, rfl⟩ := Int.eq_ofNat_of_zero_le hlow
        exact strange (.number m (Int.ofNat_lt.mp hhigh))
      simp only [below, hrange, ↓reduceIte]
    | null | text | bool | float | moment | list | table => rfl

theorem Codec.choice_lawful {all : List α} {name : α → String}
    (back : ∀ a, all.find? (name · == name a) = some a) :
    (Codec.choice all name).Lawful (.oneOf (all.map name)) fun _ a => a := by
  refine .leaf (by simp) ?_ (fun _ a => back a) ?_
  · intro a
    exact .oneOf (List.mem_map_of_mem (List.mem_of_find?_eq_some (back a)))
  · intro dialect t scalar strange
    cases t with
    | text s =>
      refine List.find?_eq_none.mpr fun a ha he => strange (.oneOf ?_)
      exact List.mem_map.mpr ⟨a, ha, by simpa using he⟩
    | table => cases scalar
    | null | int | bool | float | moment | list => rfl

theorem Codec.list_lawful (item : codec.Lawful kind fun _ a => a) :
    (Codec.list codec).Lawful (.list kind) fun _ as => as := by
  refine .leaf (by simp) ?_ ?_ ?_
  · intro as
    refine .list fun t ht => ?_
    obtain ⟨a, -, rfl⟩ := List.mem_map.mp ht
    exact item.admits a
  · intro dialect as
    change (as.map codec.toTree).mapM (codec.ofTree? dialect) = some as
    induction as with
    | nil => rfl
    | cons a as ih =>
      have hitem := item.prunes dialect _ a _ (item.whole a)
      rw [List.map_cons, List.mapM_cons, hitem, ih]
      rfl
  · intro dialect t scalar strange
    cases t with
    | list items => cases scalar
    | null | text | int | bool | float | moment | table => rfl

end Values

/-- Slots with the kinds of their fields, and how they fill a record from the pruned table of
another. Each slot takes what is left of its part, and keeps what was there if it is gone. -/
inductive Layout {R : Type} :
    List (Slot R) → List (String × Kind) → ((List String → Bool) → R → R → R) → Prop where
  | nil : Layout [] [] fun _ _ r => r
  | cons {α : Type} {key : String} {codec : Codec α} {get : R → α} {set : α → R → R} {kind : Kind}
      {less : (List String → Bool) → α → α} {slots : List (Slot R)}
      {fields : List (String × Kind)} {fill : (List String → Bool) → R → R → R}
      (lawful : codec.Lawful kind less) (held : ∀ r, set (get r) r = r)
      (rest : Layout slots fields fill) :
      Layout (.of key codec get set :: slots) ((key, kind) :: fields) fun gone whole r =>
        fill gone whole <| set (if gone [key] then get r
          else less (fun path => gone (key :: path)) (get whole)) r

namespace Layout

variable {R : Type} {slots : List (Slot R)} {fields : List (String × Kind)}
  {fill : (List String → Bool) → R → R → R}

/-- The entries that slots make of a record. -/
def written (slots : List (Slot R)) (r : R) : List (String × Tree) :=
  slots.map fun slot => (slot.key, slot.toTree r)

theorem keys (h : Layout slots fields fill) (r : R) :
    (written slots r).map Prod.fst = fields.map Prod.fst := by
  induction h with
  | nil => rfl
  | cons lawful held rest ih => exact congrArg (_ :: ·) ih

theorem admits (h : Layout slots fields fill) (r : R) :
    ∀ p ∈ fields.zip (written slots r), p.1.2.Admits p.2.2 := by
  induction h with
  | nil =>
    intro p hp
    cases hp
  | cons lawful held rest ih =>
    intro p hp
    rcases List.mem_cons.mp hp with rfl | hp
    · exact lawful.admits _
    · exact ih p hp

theorem whole (h : Layout slots fields fill) (r : R) :
    ∀ e ∈ written slots r, e.2.Pruned (fun _ => false) e.2 := by
  induction h with
  | nil =>
    intro e he
    cases he
  | cons lawful held rest ih =>
    intro e he
    rcases List.mem_cons.mp he with rfl | he
    · exact lawful.whole _
    · exact ih e he

theorem fill?_left {dialect : Tree.Dialect} {gone : List String → Bool}
    {entries : List (String × Tree)} {whole : R} (h : Layout slots fields fill) (r : R)
    (left : ∀ key t, (key, t) ∈ written slots whole → Tree.Left gone entries key t) :
    Slot.fill? dialect entries slots r = some (fill gone whole r) := by
  induction h generalizing r with
  | nil => rfl
  | @cons α key codec get set kind less slots fields fill lawful held rest ih =>
    have hrest := fun r => ih r fun key t ht => left key t (List.mem_cons_of_mem _ ht)
    have hslot := left key (codec.toTree (get whole)) List.mem_cons_self
    unfold Tree.Left at hslot
    unfold Slot.fill?
    dsimp only [Slot.of]
    by_cases hgone : gone [key] = true
    · rw [if_pos hgone] at hslot ⊢
      rw [hslot, held]
      exact hrest r
    · rw [if_neg hgone] at hslot ⊢
      obtain ⟨t', hfound, hpruned⟩ := hslot
      have hread := lawful.prunes dialect _ _ _ hpruned
      rw [hfound]
      dsimp only
      rw [hread]
      exact hrest _

theorem fill?_spoilt {dialect : Tree.Dialect} {entries : List (String × Tree)} {key : String}
    {kind : Kind} {t : Tree} (h : Layout slots fields fill) (member : (key, kind) ∈ fields)
    (found : entries.lookup key = some t) (spoilt : kind.Spoilt t) (r : R) :
    Slot.fill? dialect entries slots r = none := by
  induction h generalizing r with
  | nil => cases member
  | @cons α key' codec get set kind' less slots fields fill lawful held rest ih =>
    unfold Slot.fill?
    dsimp only [Slot.of]
    rcases List.mem_cons.mp member with heq | hmem
    · cases heq
      rw [found]
      dsimp only
      rw [lawful.refuses dialect t spoilt]
      rfl
    · cases entries.lookup key' with
      | none => exact ih hmem r
      | some t' =>
        dsimp only
        cases codec.ofTree? dialect t' with
        | none => rfl
        | some a => exact ih hmem _

/-- A record with distinct keys has the laws that its slots have, and what is gone has the value
that the record starts from. -/
theorem lawful {initial : R} {less : (List String → Bool) → R → R} (h : Layout slots fields fill)
    (distinct : (fields.map Prod.fst).Nodup)
    (filled : ∀ gone whole, fill gone whole initial = less gone whole) :
    (Codec.record initial slots).Lawful (.record fields) less where
  admits r := .record (h.keys r) (h.admits r)
  whole r := by
    have hdistinct := (h.keys r).symm ▸ distinct
    have horder : (written slots r).Perm (written slots r ++ []) := by rw [List.append_nil]
    refine .table ?_ ?_ ?_ horder
    · rw [Bool.not_false, List.filter_true]
      rfl
    · intro key t t' ht ht'
      cases List.inj_on_of_nodup_map hdistinct ht ht' rfl
      exact h.whole r _ ht
    · intro e he
      cases he
  prunes dialect gone r t ht := by
    obtain ⟨entries, rfl⟩ := ht.of_table
    have hdistinct := (h.keys r).symm ▸ distinct
    rw [← filled]
    exact h.fill?_left initial fun key t hmem => ht.left hdistinct hmem
  refuses dialect t ht := by
    cases ht with
    | scalar leaf => exact absurd rfl (leaf _)
    | field member found spoilt => exact h.fill?_spoilt member found spoilt initial

end Layout

end ModemBench
