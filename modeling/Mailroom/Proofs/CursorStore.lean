import Mathlib.Data.List.Nodup
import Mathlib.Tactic.Lemma
import Mailroom.Cursor.Store

/-!
# What a cursor store holds

In a sound store each token stands for one entry. An operation on one token leaves other tokens
with their entries or without, so nothing ever comes to stand under a token that was already issued.
A new entry has the latest deadline and is never the one to go.
-/

namespace Mailroom.Cursor

lemma tokenText_injective {m n : Token} (h : tokenText m = tokenText n) : m = n := by
  have hlist : ∀ k : Token, (tokenText k).toList = "cursor-".toList ++ Nat.toDigits 10 k := by
    intro k
    simp [tokenText, toString]
  have hdigits : Nat.toDigits 10 m = Nat.toDigits 10 n :=
    List.append_cancel_left ((hlist m).symm.trans ((congrArg String.toList h).trans (hlist n)))
  rw [← Nat.ofDigitChars_ten_toDigits (n := m), hdigits, Nat.ofDigitChars_ten_toDigits]

namespace Store

variable {s : Store} {p : Policy} {now : Instant} {token : String} {e e' : Entry}

/-- A token that was issued by a store. -/
def Issued (s : Store) (token : String) : Prop :=
  ∃ k, k ≤ s.created ∧ token = tokenText k

/-- A store whose tokens are distinct and were all issued by it. -/
structure Sound (s : Store) : Prop where
  distinct : (s.entries.map Prod.fst).Nodup
  issued : ∀ x ∈ s.entries, s.Issued x.1

lemma not_issued_next (s : Store) : ¬ s.Issued (tokenText (s.created + 1)) := by
  rintro ⟨k, hk, h⟩
  have hnext : s.created + 1 = k := tokenText_injective h
  omega

lemma Sound.eq_of_mem (h : s.Sound) {x y : String × Entry} (hx : x ∈ s.entries)
    (hy : y ∈ s.entries) (hxy : x.1 = y.1) : x = y :=
  List.inj_on_of_nodup_map h.distinct hx hy hxy

lemma Sound.find?_eq_some (h : s.Sound) : s.find? token = some e ↔ (token, e) ∈ s.entries := by
  unfold find?
  constructor
  · intro hfind
    obtain ⟨x, hx, rfl⟩ := Option.map_eq_some_iff.1 hfind
    have htoken : x.1 = token := by simpa using List.find?_some hx
    exact htoken ▸ List.mem_of_find?_eq_some hx
  · intro hmem
    cases hx : s.entries.find? (·.1 == token) with
    | none => exact absurd (List.find?_eq_none.1 hx _ hmem) (by simp)
    | some x =>
      have htoken : x.1 = token := by simpa using List.find?_some hx
      rw [h.eq_of_mem (List.mem_of_find?_eq_some hx) hmem htoken]
      rfl

lemma find?_eq_none : s.find? token = none ↔ ∀ x ∈ s.entries, x.1 ≠ token := by
  simp [find?, List.find?_eq_none]

lemma sound_empty : empty.Sound :=
  ⟨List.nodup_nil, fun _ hx => by cases hx⟩

lemma Sound.filter (h : s.Sound) (f : String × Entry → Bool) :
    Sound { s with entries := s.entries.filter f } where
  distinct := h.distinct.sublist (List.filter_sublist.map Prod.fst)
  issued x hx := h.issued x (List.mem_of_mem_filter hx)

lemma Sound.purge (h : s.Sound) (now : Instant) : (s.purge now).Sound :=
  h.filter _

lemma Sound.delete (h : s.Sound) (now : Instant) (token : String) : (s.delete now token).Sound :=
  (h.purge now).filter _

lemma tokens_advance (p : Policy) (now : Instant) (token : String) (offset : Int) (s : Store) :
    (s.advance p now token offset).entries.map Prod.fst = (s.purge now).entries.map Prod.fst := by
  simp only [Store.advance, List.map_map]
  refine List.map_congr_left fun x _ => ?_
  simp only [Function.comp_apply]
  split <;> rfl

lemma Sound.advance (h : s.Sound) (p : Policy) (now : Instant) (token : String) (offset : Int) :
    (s.advance p now token offset).Sound where
  distinct := by
    rw [tokens_advance]
    exact (h.purge now).distinct
  issued x hx := by
    obtain ⟨y, hy, rfl⟩ := List.mem_map.1 hx
    have := (h.purge now).issued y hy
    split <;> exact this

lemma Sound.push (h : s.Sound) (e : Entry) :
    Sound ⟨s.entries ++ [(tokenText (s.created + 1), e)], s.created + 1⟩ where
  distinct := by
    rw [List.map_append]
    refine List.nodup_append.2 ⟨h.distinct, List.nodup_singleton _, ?_⟩
    rintro token hold _ hnew rfl
    obtain ⟨x, hx, rfl⟩ := List.mem_map.1 hold
    have hissued := h.issued x hx
    rw [List.mem_singleton.1 hnew] at hissued
    exact not_issued_next s hissued
  issued x hx := by
    rcases List.mem_append.1 hx with hx | hx
    · obtain ⟨k, hk, hx⟩ := h.issued x hx
      exact ⟨k, Nat.le_succ_of_le hk, hx⟩
    · rw [List.mem_singleton.1 hx]
      exact ⟨s.created + 1, Nat.le_refl _, rfl⟩

lemma Sound.create (h : s.Sound) (p : Policy) (now : Instant) (e : Entry) :
    (s.create p now e).2.Sound :=
  ((h.purge now).push _).filter _

lemma mem_purge {x : String × Entry} :
    x ∈ (s.purge now).entries ↔ x ∈ s.entries ∧ isLive now x.2 :=
  List.mem_filter

lemma Sound.find?_purge (h : s.Sound) :
    (s.purge now).find? token = some e ↔ s.find? token = some e ∧ isLive now e := by
  rw [(h.purge now).find?_eq_some, h.find?_eq_some, mem_purge]

lemma Sound.get_eq_some (h : s.Sound) :
    (s.get now token).1 = some e ↔ s.find? token = some e ∧ isLive now e :=
  h.find?_purge

lemma purge_purge {now' : Instant} (h : now ≤ now') (s : Store) :
    (s.purge now).purge now' = s.purge now' := by
  simp only [purge, List.filter_filter]
  congr 1
  refine List.filter_congr fun x _ => ?_
  simp only [isLive, Bool.and_eq_left_iff_imp, decide_eq_true_eq]
  exact fun hlive => Int.lt_of_le_of_lt h hlive

/-- What came due before need not be dropped before an entry is moved on. -/
lemma advance_purge {now' : Instant} (h : now ≤ now') (s : Store) (offset : Int) :
    (s.purge now).advance p now' token offset = s.advance p now' token offset := by
  simp only [advance, purge_purge h]

lemma Sound.find?_delete (h : s.Sound) {token' : String} :
    (s.delete now token').find? token = some e ↔
      token ≠ token' ∧ s.find? token = some e ∧ isLive now e := by
  rw [(h.delete now token').find?_eq_some, h.find?_eq_some, ← mem_purge, Store.delete,
    List.mem_filter, bne_iff_ne, and_comm]

lemma find?_delete_self (s : Store) : (s.delete now token).find? token = none :=
  find?_eq_none.2 fun _ hx => by simpa using (List.mem_filter.1 hx).2

lemma Sound.find?_of_delete {token' : String} (h : s.Sound)
    (hfind : (s.delete now token').find? token = some e) : s.find? token = some e :=
  (h.find?_delete.1 hfind).2.1

/-- Moving an entry on keeps the live entries, and renews the one of its token. -/
lemma Sound.find?_advance (h : s.Sound) {token' : String} {offset : Int} :
    (s.advance p now token' offset).find? token = some e' ↔
      ∃ e, s.find? token = some e ∧ isLive now e ∧ e' = if token = token' then
        { e with offset := offset, expiresAt := p.deadline now } else e := by
  rw [(h.advance p now token' offset).find?_eq_some]
  constructor
  · intro hmem
    obtain ⟨⟨k, e⟩, hx, hxe⟩ := List.mem_map.1 hmem
    obtain ⟨hfind, hlive⟩ := mem_purge.1 hx
    by_cases hk : k = token'
    · rw [if_pos (beq_iff_eq.2 hk)] at hxe
      obtain ⟨rfl, rfl⟩ := Prod.mk.inj hxe
      exact ⟨e, h.find?_eq_some.2 hfind, hlive, (if_pos hk).symm⟩
    · rw [if_neg (mt beq_iff_eq.1 hk)] at hxe
      obtain ⟨rfl, rfl⟩ := Prod.mk.inj hxe
      exact ⟨e, h.find?_eq_some.2 hfind, hlive, (if_neg hk).symm⟩
  · rintro ⟨e, hfind, hlive, rfl⟩
    refine List.mem_map.2 ⟨(token, e), mem_purge.2 ⟨h.find?_eq_some.1 hfind, hlive⟩, ?_⟩
    by_cases hk : token = token' <;> simp [hk]

lemma Sound.find?_advance_self (h : s.Sound) {offset : Int} (hfind : s.find? token = some e)
    (hlive : isLive now e) : (s.advance p now token offset).find? token =
      some { e with offset := offset, expiresAt := p.deadline now } :=
  h.find?_advance.2 ⟨e, hfind, hlive, (if_pos rfl).symm⟩

lemma Sound.find?_advance_none (h : s.Sound) {offset : Int}
    (hnone : ∀ e, s.find? token = some e → isLive now e = false) :
    (s.advance p now token offset).find? token = none := by
  refine Option.eq_none_iff_forall_ne_some.2 fun e' hfind => ?_
  obtain ⟨e, he, hlive, -⟩ := h.find?_advance.1 hfind
  rw [hnone e he] at hlive
  cases hlive

lemma find?_advance_only {offset : Int} (hs : s.Sound)
    (honly : ∀ e', s.find? token = some e' → e' = e)
    (hfind : (s.advance p now token offset).find? token = some e') :
    e' = { e with offset := offset, expiresAt := p.deadline now } := by
  obtain ⟨e₀, he, -, rfl⟩ := hs.find?_advance.1 hfind
  rw [if_pos rfl, honly e₀ he]

lemma Sound.find?_of_advance {token' : String} {offset : Int} (h : s.Sound) (hne : token ≠ token')
    (hfind : (s.advance p now token' offset).find? token = some e) : s.find? token = some e := by
  obtain ⟨e₀, he, -, rfl⟩ := h.find?_advance.1 hfind
  rwa [if_neg hne]

/-- A store with one more entry, for which there may be no room. -/
def pushed (p : Policy) (now : Instant) (e : Entry) (s : Store) : Store :=
  ⟨(s.purge now).entries ++ [(tokenText (s.created + 1), { e with expiresAt := p.deadline now })],
    s.created + 1⟩

lemma create_eq (p : Policy) (now : Instant) (e : Entry) (s : Store) :
    s.create p now e = (tokenText (s.created + 1), evict p.capacity (s.pushed p now e)) := rfl

lemma Sound.pushed (h : s.Sound) (p : Policy) (now : Instant) (e : Entry) :
    (s.pushed p now e).Sound :=
  (h.purge now).push _

lemma Sound.find?_pushed (h : s.Sound) :
    (s.pushed p now e).find? token = some e' ↔ (s.find? token = some e' ∧ isLive now e') ∨
      (token = tokenText (s.created + 1) ∧ e' = { e with expiresAt := p.deadline now }) := by
  rw [(h.pushed p now e).find?_eq_some, ← h.find?_purge, (h.purge now).find?_eq_some, Store.pushed,
    List.mem_append, List.mem_singleton, Prod.mk.injEq]

/-- What is held after a creation was held before, or is the new entry. -/
lemma Sound.find?_create (h : s.Sound)
    (hfind : (s.create p now e).2.find? token = some e') : s.find? token = some e' ∨
      (token = (s.create p now e).1 ∧ e' = { e with expiresAt := p.deadline now }) := by
  have hmem := (h.create p now e).find?_eq_some.1 hfind
  have hpushed := (h.pushed p now e).find?_eq_some.2 (List.mem_of_mem_filter hmem)
  exact (h.find?_pushed.1 hpushed).imp_left And.left

lemma not_issued_create (s : Store) (p : Policy) (now : Instant) (e : Entry) :
    ¬ s.Issued (s.create p now e).1 :=
  not_issued_next s

lemma Sound.find?_of_create (h : s.Sound) (hissued : s.Issued token)
    (hfind : (s.create p now e').2.find? token = some e) : s.find? token = some e := by
  refine (h.find?_create hfind).resolve_right ?_
  rintro ⟨rfl, -⟩
  exact not_issued_create s p now e' hissued

lemma issued_create (s : Store) (p : Policy) (now : Instant) (e : Entry) :
    (s.create p now e).2.Issued (s.create p now e).1 :=
  ⟨s.created + 1, Nat.le_refl _, rfl⟩

lemma Sound.find?_create_only (h : s.Sound)
    (hfind : (s.create p now e).2.find? (s.create p now e).1 = some e') :
    e' = { e with expiresAt := p.deadline now } := by
  refine ((h.find?_create hfind).resolve_left fun hold => ?_).2
  exact not_issued_create s p now e (h.issued _ (h.find?_eq_some.1 hold))

lemma expiresAt_of_mem_advance {offset : Int} {x : String × Entry}
    (hx : x ∈ (s.advance p now token offset).entries) :
    (∃ y ∈ s.entries, y.2.expiresAt = x.2.expiresAt) ∨ x.2.expiresAt = p.deadline now := by
  obtain ⟨y, hy, rfl⟩ := List.mem_map.1 hx
  split
  · exact .inr rfl
  · exact .inl ⟨y, (mem_purge.1 hy).1, rfl⟩

lemma expiresAt_of_mem_create {x : String × Entry} (hx : x ∈ (s.create p now e).2.entries) :
    (∃ y ∈ s.entries, y.2.expiresAt = x.2.expiresAt) ∨ x.2.expiresAt = p.deadline now := by
  rcases List.mem_append.1 (List.mem_of_mem_filter hx) with hx | hx
  · exact .inl ⟨x, (mem_purge.1 hx).1, rfl⟩
  · rw [List.mem_singleton.1 hx]
    exact .inr rfl

section Drops

variable {s' s'' : Store}

/-- A store comes of another by losing entries, at most. -/
structure Drops (s s' : Store) : Prop where
  created : s'.created = s.created
  sound : s.Sound → s'.Sound
  only : s.Sound → ∀ token e, s'.find? token = some e → s.find? token = some e

lemma Drops.refl (s : Store) : s.Drops s :=
  ⟨rfl, id, fun _ _ _ h => h⟩

lemma Drops.trans (h : s.Drops s') (h' : s'.Drops s'') : s.Drops s'' where
  created := h'.created.trans h.created
  sound hs := h'.sound (h.sound hs)
  only hs token e hfind := h.only hs token e (h'.only (h.sound hs) token e hfind)

lemma drops_get (s : Store) (now : Instant) (token : String) : s.Drops (s.get now token).2 :=
  ⟨rfl, fun hs => hs.purge now, fun hs _ _ h => (hs.find?_purge.1 h).1⟩

lemma drops_delete (s : Store) (now : Instant) (token : String) : s.Drops (s.delete now token) :=
  ⟨rfl, fun hs => hs.delete now token, fun hs _ _ h => hs.find?_of_delete h⟩

end Drops

section Eviction

variable {xs : List (String × Entry)} {x : String × Entry}

lemma mem_left_of_pair_sublist {α : Type} {a b : α} {xs ys : List α}
    (h : [a, b].Sublist (xs ++ ys)) (hn : (xs ++ ys).Nodup) (hb : b ∈ xs) : a ∈ xs := by
  have hdisjoint : ∀ c ∈ xs, c ∉ ys := fun c hx hy => (List.nodup_append.1 hn).2.2 c hx c hy rfl
  obtain ⟨l₁, l₂, hsplit, h₁, h₂⟩ := List.sublist_append_iff.1 h
  cases l₁ with
  | nil =>
    have hmem : b ∈ l₂ := by
      rw [List.nil_append] at hsplit
      simp [← hsplit]
    exact absurd (h₂.subset hmem) (hdisjoint b hb)
  | cons c l₁ =>
    obtain ⟨rfl, -⟩ := List.cons.inj hsplit
    exact h₁.subset List.mem_cons_self

lemma goesFirst_trans (a b c : String × Entry) (hab : goesFirst a b) (hbc : goesFirst b c) :
    goesFirst a c := by
  simp only [goesFirst, decide_eq_true_eq] at *
  exact Int.le_trans hab hbc

lemma goesFirst_total (a b : String × Entry) : goesFirst a b || goesFirst b a := by
  simp only [goesFirst, Bool.or_eq_true, decide_eq_true_eq]
  exact Int.le_total _ _

/-- An entry that comes last and has the latest deadline, perhaps with others, is not among the
first to go. -/
lemma not_mem_take_mergeSort (hn : (xs ++ [x]).Nodup) (hlatest : ∀ y ∈ xs, goesFirst y x)
    {k : Nat} (hk : k ≤ xs.length) : x ∉ ((xs ++ [x]).mergeSort goesFirst).take k := by
  intro hx
  generalize hsorted : (xs ++ [x]).mergeSort goesFirst = sorted at hx
  have hperm : sorted.Perm (xs ++ [x]) := hsorted ▸ List.mergeSort_perm _ _
  have hnodup : (sorted.take k ++ sorted.drop k).Nodup := by
    rw [List.take_append_drop]
    exact hperm.nodup_iff.2 hn
  have hlength : k < sorted.length := by
    rw [hperm.length_eq, List.length_append, List.length_singleton]
    omega
  -- Sorting is stable, so that an entry that is left would have gone before the last one.
  obtain ⟨z, hz⟩ := List.exists_mem_of_ne_nil _ (mt List.drop_eq_nil_iff.1 (Nat.not_le.2 hlength))
  have hzx : z ≠ x := fun h => (List.nodup_append.1 hnodup).2.2 x hx z hz h.symm
  have hzxs : z ∈ xs := by
    rcases List.mem_append.1 (hperm.mem_iff.1 (List.mem_of_mem_drop hz)) with hmem | hmem
    · exact hmem
    · exact absurd (List.mem_singleton.1 hmem) hzx
  have hpair : [z, x].Sublist (sorted.take k ++ sorted.drop k) := by
    rw [List.take_append_drop, ← hsorted]
    exact List.pair_sublist_mergeSort goesFirst_trans goesFirst_total (hlatest z hzxs)
      ((List.singleton_sublist.2 hzxs).append (List.Sublist.refl [x]))
  exact (List.nodup_append.1 hnodup).2.2 z (mem_left_of_pair_sublist hpair hnodup hx) z hz rfl

/-- A new entry is held if entries are held at all and no deadline lies behind its own. -/
lemma Sound.find?_create_self (h : s.Sound) (hcapacity : 0 < p.capacity)
    (hlatest : ∀ y ∈ s.entries, y.2.expiresAt ≤ p.deadline now) :
    (s.create p now e).2.find? (s.create p now e).1 =
      some { e with expiresAt := p.deadline now } := by
  have hpushed := (h.purge now).push { e with expiresAt := p.deadline now }
  have hlast : ∀ y ∈ (s.purge now).entries,
      goesFirst y (tokenText (s.created + 1), { e with expiresAt := p.deadline now }) :=
    fun y hy => decide_eq_true (hlatest y (mem_purge.1 hy).1)
  rw [(h.create p now e).find?_eq_some]
  refine List.mem_filter.2 ⟨List.mem_append_right _ List.mem_cons_self, ?_⟩
  simp only [Bool.not_eq_true', List.any_eq_false, beq_iff_eq]
  intro y hy htoken
  have hmem := (List.mergeSort_perm _ _).mem_iff.1 (List.mem_of_mem_take hy)
  have hnew := hpushed.eq_of_mem hmem (List.mem_append_right _ List.mem_cons_self) htoken
  rw [hnew] at hy
  refine not_mem_take_mergeSort (hpushed.distinct.of_map _) hlast ?_ hy
  rw [List.length_append, List.length_singleton]
  omega

end Eviction

end Store

end Mailroom.Cursor
