import Mailroom.Proofs.ClockRounding
import Mailroom.Proofs.CursorFrame

/-!
# What leaves a cursor store

A store never holds more than its capacity. It lists its entries in the order of their creation and
eviction sorts them stably, so that a new entry for which there is no room takes the place of the
one that comes due first and, of equals, was created first. Whatever has left a store, for any
reason, is gone for good: entries leave it physically, and no token is returned twice. That does not
depend on the clock, which may go back.
-/

namespace Mailroom.Cursor

namespace Store

variable {s : Store} {p : Policy} {t : Instant} {token : String} {e : Entry} {capacity : Nat}
variable {x : Instant × Operation}

section Steps

lemma Sound.perform (h : s.Sound) (p : Policy) (x : Instant × Operation) :
    (s.perform p x).Sound := by
  obtain ⟨t, o⟩ := x
  cases o with
  | create e => exact h.create p t e
  | advance token offset => exact h.advance p t token offset
  | delete token => exact h.delete t token
  | get | size => exact h.purge t

lemma Issued.perform (h : s.Issued token) (p : Policy) (x : Instant × Operation) :
    (s.perform p x).Issued token := by
  obtain ⟨k, hk, rfl⟩ := h
  obtain ⟨t, o⟩ := x
  cases o with
  | create e => exact ⟨k, Nat.le_succ_of_le hk, rfl⟩
  | get | advance | delete | size => exact ⟨k, hk, rfl⟩

/-- Nothing comes to stand under a token that was returned before. -/
lemma Sound.find?_perform_none (h : s.Sound) (hissued : s.Issued token)
    (hnone : s.find? token = none) : (s.perform p x).find? token = none := by
  refine Option.eq_none_iff_forall_ne_some.2 fun e he => ?_
  obtain ⟨t, o⟩ := x
  suffices hheld : ∃ e, s.find? token = some e by
    obtain ⟨e, he⟩ := hheld
    cases hnone.symm.trans he
  cases o with
  | create e₀ => exact ⟨e, h.find?_of_create hissued he⟩
  | advance token' offset =>
    obtain ⟨e₀, he₀, -⟩ := h.find?_advance.1 he
    exact ⟨e₀, he₀⟩
  | delete token' => exact ⟨e, h.find?_of_delete he⟩
  | get | size => exact ⟨e, (h.find?_purge.1 he).1⟩

/-- The tokens that are held were held before, in the same order, or were returned just now. -/
lemma tokens_perform (p : Policy) (s : Store) (x : Instant × Operation) :
    ((s.perform p x).entries.map Prod.fst).Sublist (s.entries.map Prod.fst) ∨
      ∃ t e, x = (t, .create e) ∧ ((s.perform p x).entries.map Prod.fst).Sublist
        (s.entries.map Prod.fst ++ [(s.create p t e).1]) := by
  have hpurge : ∀ t, ((s.purge t).entries.map Prod.fst).Sublist (s.entries.map Prod.fst) :=
    fun t => List.filter_sublist.map Prod.fst
  obtain ⟨t, o⟩ := x
  cases o with
  | create e =>
    refine .inr ⟨t, e, rfl, (List.filter_sublist.map Prod.fst).trans ?_⟩
    rw [List.map_append]
    exact (hpurge t).append (List.Sublist.refl _)
  | advance token offset =>
    refine .inl ?_
    rw [perform, tokens_advance]
    exact hpurge t
  | delete token => exact .inl ((List.filter_sublist.map Prod.fst).trans (hpurge t))
  | get | size => exact .inl (hpurge t)

/-- Every deadline is that of a renewal. -/
lemma expiresAt_of_mem_perform {y : String × Entry} (hy : y ∈ (s.perform p x).entries) :
    (∃ z ∈ s.entries, z.2.expiresAt = y.2.expiresAt) ∨ y.2.expiresAt = p.deadline x.1 := by
  obtain ⟨t, o⟩ := x
  cases o with
  | create e => exact expiresAt_of_mem_create hy
  | advance token offset => exact expiresAt_of_mem_advance hy
  | delete token => exact .inl ⟨y, (mem_purge.1 (List.mem_of_mem_filter hy)).1, rfl⟩
  | get | size => exact .inl ⟨y, (mem_purge.1 hy).1, rfl⟩

end Steps

section Absence

/-- Moving on what is not there is but another use of the store. -/
lemma advance_of_absent (hnone : s.find? token = none) (p : Policy) (t : Instant) (offset : Int) :
    s.advance p t token offset = s.purge t := by
  have hsame : ∀ y ∈ (s.purge t).entries, (if y.1 == token then
      (y.1, { y.2 with offset := offset, expiresAt := p.deadline t }) else y) = y := by
    intro y hy
    have hne : y.1 ≠ token := find?_eq_none.1 hnone y (mem_purge.1 hy).1
    rw [if_neg (mt beq_iff_eq.1 hne)]
  simp only [advance, List.map_congr_left hsame, List.map_id']

lemma delete_of_absent (hnone : s.find? token = none) (t : Instant) :
    s.delete t token = s.purge t := by
  have hkept : (s.purge t).entries.filter (·.1 != token) = (s.purge t).entries :=
    List.filter_eq_self.2 fun y hy =>
      bne_iff_ne.2 (find?_eq_none.1 hnone y (mem_purge.1 hy).1)
  simp only [delete, hkept]

lemma get_of_absent (hnone : s.find? token = none) (t : Instant) : (s.get t token).1 = none :=
  find?_eq_none.2 fun y hy => find?_eq_none.1 hnone y (mem_purge.1 hy).1

end Absence

section Eviction

variable {xs : List (String × Entry)}

/-- Of several entries the first to go comes due no later than those that stand after it, and
earlier than those that stand before it. -/
lemma mergeSort_take_one (hn : xs.Nodup) (hne : xs ≠ []) :
    ∃ l₁ y l₂, xs = l₁ ++ y :: l₂ ∧ (xs.mergeSort goesFirst).take 1 = [y] ∧
      (∀ z ∈ l₁, y.2.expiresAt < z.2.expiresAt) ∧ ∀ z ∈ l₂, y.2.expiresAt ≤ z.2.expiresAt := by
  have hperm := List.mergeSort_perm xs goesFirst
  have hsorted : (xs.mergeSort goesFirst).Pairwise fun a b => goesFirst a b :=
    List.pairwise_mergeSort goesFirst_trans goesFirst_total xs
  have hstable : ∀ a b, goesFirst a b → [a, b].Sublist xs →
      [a, b].Sublist (xs.mergeSort goesFirst) := fun a b hab hsub =>
    List.pair_sublist_mergeSort goesFirst_trans goesFirst_total hab hsub
  cases hys : xs.mergeSort goesFirst with
  | nil => exact absurd (hperm.symm.trans (hys ▸ List.Perm.refl _)).eq_nil hne
  | cons y ys =>
    rw [hys] at hperm hsorted hstable
    obtain ⟨l₁, l₂, rfl⟩ := List.append_of_mem (hperm.mem_iff.1 List.mem_cons_self)
    have hleast : ∀ z ∈ l₁ ++ y :: l₂, y.2.expiresAt ≤ z.2.expiresAt := by
      intro z hz
      rcases List.mem_cons.1 (hperm.mem_iff.2 hz) with rfl | hz
      · exact Int.le_refl _
      · exact of_decide_eq_true (List.rel_of_pairwise_cons hsorted hz)
    refine ⟨l₁, y, l₂, rfl, rfl, fun z hz => ?_, fun z hz => ?_⟩
    · by_contra hdue
      -- Sorting is stable, so that an equal entry before it would have gone first.
      have hpair : [z, y].Sublist (y :: ys) := hstable z y (decide_eq_true (not_lt.1 hdue))
        ((List.singleton_sublist.2 hz).append (List.singleton_sublist.2 List.mem_cons_self))
      have hzy : z ≠ y := by
        rintro rfl
        exact (List.nodup_append.1 hn).2.2 z hz z List.mem_cons_self rfl
      rcases List.sublist_cons_iff.1 hpair with hlater | ⟨_, hcons, -⟩
      · have hy : y ∈ ys := hlater.subset (List.mem_cons_of_mem _ List.mem_cons_self)
        exact (List.nodup_cons.1 (hperm.nodup_iff.2 hn)).1 hy
      · exact hzy (List.cons.inj hcons).1
    · exact hleast z (List.mem_append_right _ (List.mem_cons_of_mem _ hz))

/-- With one entry too many, the first to go is the only one that goes. -/
lemma Sound.evict_one (h : s.Sound) (hlength : s.entries.length = capacity + 1) :
    ∃ l₁ y l₂, s.entries = l₁ ++ y :: l₂ ∧ (evict capacity s).entries = l₁ ++ l₂ ∧
      (∀ z ∈ l₁, y.2.expiresAt < z.2.expiresAt) ∧ ∀ z ∈ l₂, y.2.expiresAt ≤ z.2.expiresAt := by
  have hn : s.entries.Nodup := h.distinct.of_map _
  have hne : s.entries ≠ [] := by
    intro hnil
    rw [hnil] at hlength
    cases hlength
  obtain ⟨l₁, y, l₂, hsplit, hfirst, hbefore, hafter⟩ := mergeSort_take_one hn hne
  refine ⟨l₁, y, l₂, hsplit, ?_, hbefore, hafter⟩
  have hover : s.entries.length - capacity = 1 := by omega
  have hkept : ∀ z ∈ l₁ ++ l₂, z ≠ y := by
    rintro z hz rfl
    rw [hsplit, List.nodup_middle] at hn
    exact (List.nodup_cons.1 hn).1 hz
  have hstays : ∀ z ∈ l₁ ++ l₂, z.1 ≠ y.1 := by
    intro z hz hzy
    have hmem : z ∈ s.entries := by
      rw [hsplit]
      exact (List.perm_middle.mem_iff).2 (List.mem_cons_of_mem _ hz)
    exact hkept z hz (h.eq_of_mem hmem (by simp [hsplit]) hzy)
  simp only [evict, hover, hfirst, List.any_cons, List.any_nil, Bool.or_false]
  rw [hsplit, List.filter_append, List.filter_cons_of_neg (by simp), ← List.filter_append]
  exact List.filter_eq_self.2 fun z hz => by simpa using (hstays z hz).symm

/-- However full a store is, eviction leaves no more than the capacity. -/
lemma length_evict_le (capacity : Nat) (s : Store) :
    (evict capacity s).entries.length ≤ capacity := by
  have hperm := List.mergeSort_perm s.entries goesFirst
  simp only [evict]
  generalize hk : s.entries.length - capacity = k
  rw [← (hperm.filter _).length_eq]
  generalize hsorted : s.entries.mergeSort goesFirst = sorted at hperm
  have hgone : (sorted.take k).filter (fun y => !(sorted.take k).any (·.1 == y.1)) = [] := by
    refine List.filter_eq_nil_iff.2 fun y hy => ?_
    simp only [Bool.not_eq_true', Bool.not_eq_false, List.any_eq_true]
    exact ⟨y, hy, beq_self_eq_true y.1⟩
  have hlength := hperm.length_eq
  calc (sorted.filter fun y => !(sorted.take k).any (·.1 == y.1)).length
    _ = ((sorted.drop k).filter fun y => !(sorted.take k).any (·.1 == y.1)).length := by
        conv_lhs => rw [← List.take_append_drop k sorted]
        rw [List.filter_append, List.take_append_drop, hgone, List.nil_append]
    _ ≤ (sorted.drop k).length := List.length_filter_le _ _
    _ ≤ capacity := by
        rw [List.length_drop]
        omega

lemma length_perform_le (hfits : s.entries.length ≤ p.capacity) (x : Instant × Operation) :
    (s.perform p x).entries.length ≤ p.capacity := by
  have hpurge : ∀ t, (s.purge t).entries.length ≤ p.capacity :=
    fun t => (List.length_filter_le _ _).trans hfits
  obtain ⟨t, o⟩ := x
  cases o with
  | create e => exact length_evict_le p.capacity _
  | advance token offset =>
    rw [perform, advance, List.length_map]
    exact hpurge t
  | delete token => exact (List.length_filter_le _ _).trans (hpurge t)
  | get | size => exact hpurge t

/-- A new entry for which there is no room takes the place of the live one that is the first to
go. -/
lemma Sound.create_full (h : s.Sound) (hcapacity : 0 < p.capacity)
    (hfull : (s.purge t).entries.length = p.capacity)
    (hlatest : ∀ y ∈ s.entries, y.2.expiresAt ≤ p.deadline t) (e : Entry) :
    ∃ l₁ y l₂, (s.purge t).entries = l₁ ++ y :: l₂ ∧
      (s.create p t e).2.entries =
        l₁ ++ l₂ ++ [((s.create p t e).1, { e with expiresAt := p.deadline t })] ∧
      (∀ z ∈ l₁, y.2.expiresAt < z.2.expiresAt) ∧ ∀ z ∈ l₂, y.2.expiresAt ≤ z.2.expiresAt := by
  have hlength : (s.pushed p t e).entries.length = p.capacity + 1 := by
    rw [Store.pushed, List.length_append, hfull, List.length_singleton]
  obtain ⟨l₁, y, l₂, hsplit, hleft, hbefore, hafter⟩ := (h.pushed p t e).evict_one hlength
  rw [Store.pushed] at hsplit
  rw [create_eq, hleft]
  rcases List.eq_nil_or_concat' l₂ with rfl | ⟨l₂, z, rfl⟩
  · -- The new entry is not the one to go: a live one comes due no later and stands before it.
    obtain ⟨rfl, hnew⟩ := List.append_inj' hsplit rfl
    obtain rfl := List.singleton_inj.1 hnew
    obtain ⟨z, hz⟩ := List.exists_mem_of_length_pos (hfull ▸ hcapacity)
    exact absurd (hlatest z (mem_purge.1 hz).1) (not_le.2 (hbefore z hz))
  · rw [← List.cons_append, ← List.append_assoc] at hsplit
    obtain ⟨hlive, hnew⟩ := List.append_inj' hsplit rfl
    obtain rfl := List.singleton_inj.1 hnew
    exact ⟨l₁, y, l₂, hlive, (List.append_assoc _ _ _).symm, hbefore,
      fun z hz => hafter z (List.mem_append_left _ hz)⟩

end Eviction

end Store

namespace History

variable {p : Policy} {h before : History} {x : Instant × Operation} {t : Instant} {token : String}

lemma sound_store (p : Policy) (h : History) : (store p h).Sound := by
  induction h using List.reverseRecOn with
  | nil => exact Store.sound_empty
  | append_singleton h x ih =>
    rw [store_append]
    exact ih.perform p x

lemma length_store_le (p : Policy) (h : History) :
    (store p h).entries.length ≤ p.capacity := by
  induction h using List.reverseRecOn with
  | nil => exact Nat.zero_le _
  | append_singleton h x ih =>
    rw [store_append]
    exact Store.length_perform_le ih x

section Order

/-- After a part of a history comes the creation that a token was returned for. -/
def Creates (p : Policy) (h : History) (token : String) (before : History) : Prop :=
  ∃ t₀ e₀ after, h = before ++ (t₀, .create e₀) :: after ∧
    ((store p before).create p t₀ e₀).1 = token

/-- One token was returned before another. -/
def Precedes (p : Policy) (h : History) (token token' : String) : Prop :=
  ∃ before before', Creates p h token before ∧ Creates p h token' before' ∧
    before.length < before'.length

lemma Creates.append (hc : Creates p h token before) (x : Instant × Operation) :
    Creates p (h ++ [x]) token before := by
  obtain ⟨t₀, e₀, after, rfl, htoken⟩ := hc
  exact ⟨t₀, e₀, after ++ [x], by rw [List.append_assoc, List.cons_append], htoken⟩

lemma creates_last (p : Policy) (h : History) (t : Instant) (e : Entry) :
    Creates p (h ++ [(t, .create e)]) ((store p h).create p t e).1 h :=
  ⟨t, e, [], rfl, rfl⟩

lemma Creates.length_lt (hc : Creates p h token before) : before.length < h.length := by
  obtain ⟨t₀, e₀, after, rfl, -⟩ := hc
  rw [List.length_append, List.length_cons]
  omega

/-- A returned token is an issued one, also after any further use. -/
lemma Creates.issued (hc : Creates p h token before) : (store p h).Issued token := by
  induction h using List.reverseRecOn with
  | nil =>
    obtain ⟨t₀, e₀, after, hsplit, -⟩ := hc
    simp at hsplit
  | append_singleton h x ih =>
    rw [store_append]
    obtain ⟨t₀, e₀, after, hsplit, htoken⟩ := hc
    rcases List.eq_nil_or_concat' after with rfl | ⟨after, y, rfl⟩
    · obtain ⟨rfl, hx⟩ := List.append_inj' hsplit rfl
      obtain rfl := List.singleton_inj.1 hx
      rw [← htoken]
      exact Store.issued_create _ p t₀ e₀
    · rw [← List.cons_append, ← List.append_assoc] at hsplit
      obtain ⟨rfl, -⟩ := List.append_inj' hsplit rfl
      exact (ih ⟨t₀, e₀, after, rfl, htoken⟩).perform p x

/-- Tokens that were all returned, each before those that are listed after it. -/
structure Ordered (p : Policy) (h : History) (tokens : List String) : Prop where
  created : ∀ token ∈ tokens, ∃ before, Creates p h token before
  inOrder : tokens.Pairwise (Precedes p h)

lemma Ordered.sublist {tokens tokens' : List String} (ho : Ordered p h tokens)
    (hsub : tokens'.Sublist tokens) : Ordered p h tokens' :=
  ⟨fun token ht => ho.created token (hsub.subset ht), ho.inOrder.sublist hsub⟩

lemma Ordered.append {tokens : List String} (ho : Ordered p h tokens) (x : Instant × Operation) :
    Ordered p (h ++ [x]) tokens where
  created token ht := by
    obtain ⟨before, hc⟩ := ho.created token ht
    exact ⟨before, hc.append x⟩
  inOrder := ho.inOrder.imp fun ⟨before, before', hc, hc', hlt⟩ =>
    ⟨before, before', hc.append x, hc'.append x, hlt⟩

lemma Ordered.push {tokens : List String} (ho : Ordered p h tokens) (t : Instant) (e : Entry) :
    Ordered p (h ++ [(t, .create e)]) (tokens ++ [((store p h).create p t e).1]) := by
  have hlast := creates_last p h t e
  constructor
  · intro token ht
    rcases List.mem_append.1 ht with ht | ht
    · exact (ho.append _).created token ht
    · exact ⟨h, List.mem_singleton.1 ht ▸ hlast⟩
  · refine List.pairwise_append.2 ⟨(ho.append _).inOrder, List.pairwise_singleton _ _, ?_⟩
    intro token ht token' ht'
    obtain ⟨before, hc⟩ := ho.created token ht
    rw [List.mem_singleton.1 ht']
    exact ⟨before, h, hc.append _, hlast, hc.length_lt⟩

lemma ordered_store (p : Policy) (h : History) :
    Ordered p h ((store p h).entries.map Prod.fst) := by
  induction h using List.reverseRecOn with
  | nil => exact ⟨nofun, List.Pairwise.nil⟩
  | append_singleton h x ih =>
    rw [store_append]
    rcases Store.tokens_perform p (store p h) x with hsub | ⟨t, e, rfl, hsub⟩
    · exact (ih.append x).sublist hsub
    · exact (ih.push t e).sublist hsub

end Order

/-- A deadline is that of some operation, whatever the clock did. -/
lemma expiresAt_of_mem_store {y : String × Entry} (hy : y ∈ (store p h).entries) :
    ∃ z ∈ h, y.2.expiresAt = p.deadline z.1 := by
  induction h using List.reverseRecOn generalizing y with
  | nil => cases hy
  | append_singleton h x ih =>
    rw [store_append] at hy
    rcases Store.expiresAt_of_mem_perform hy with ⟨z, hz, hzy⟩ | hnew
    · obtain ⟨o, ho, hdue⟩ := ih hz
      exact ⟨o, List.mem_append_left _ ho, hzy.symm.trans hdue⟩
    · exact ⟨x, List.mem_append_right _ List.mem_cons_self, hnew⟩

/-- Of the live entries one has gone: it was to come due first and, of equals, was created
first. -/
structure Evicts (p : Policy) (h : History) (t : Instant) (token victim : String) (e : Entry)
    (s : Store) : Prop where
  held : (store p h).find? victim = some e
  live : Store.isLive t e
  gone : s.find? victim = none
  others : (store p h).AgreeOn t (fun k => k ≠ token ∧ k ≠ victim) s
  first : ∀ k e', (store p h).find? k = some e' → Store.isLive t e' → k ≠ victim →
    e.expiresAt < e'.expiresAt ∨ e.expiresAt = e'.expiresAt ∧ Precedes p h victim k

/-- What a creation leaves: its own entry, and all that were live, but for one if there was no
room. -/
structure CreatesWithin (p : Policy) (h : History) (t : Instant) (e : Entry) (token : String)
    (s : Store) : Prop where
  held : s.find? token = some { e with expiresAt := p.deadline t }
  roomy : ((store p h).purge t).entries.length < p.capacity →
    (store p h).AgreeOn t (· ≠ token) s
  full : p.capacity ≤ ((store p h).purge t).entries.length →
    ∃ victim e', Evicts p h t token victim e' s

lemma evicts_of_full (hcapacity : 0 < p.capacity)
    (hlatest : ∀ y ∈ (store p h).entries, y.2.expiresAt ≤ p.deadline t)
    (hfull : p.capacity ≤ ((store p h).purge t).entries.length) (e : Entry) :
    ∃ victim e', Evicts p h t ((store p h).create p t e).1 victim e'
      ((store p h).create p t e).2 := by
  have hs := sound_store p h
  have hlength : ((store p h).purge t).entries.length = p.capacity :=
    ((List.length_filter_le _ _).trans (length_store_le p h)).antisymm hfull
  obtain ⟨l₁, ⟨victim, e'⟩, l₂, hlive, hleft, hbefore, hafter⟩ :=
    hs.create_full hcapacity hlength hlatest e
  have hs' := hs.create p t e
  have hmem : ∀ k e₁, (k, e₁) ∈ l₁ ++ (victim, e') :: l₂ ↔
      (store p h).find? k = some e₁ ∧ Store.isLive t e₁ := by
    intro k e₁
    rw [← hlive, ← (hs.purge t).find?_eq_some, hs.find?_purge]
  have horder : (l₁ ++ (victim, e') :: l₂).Pairwise fun a b => Precedes p h a.1 b.1 := by
    rw [← hlive]
    exact List.pairwise_map.1
      ((ordered_store p h).sublist (List.filter_sublist.map Prod.fst)).inOrder
  have hdistinct := (hs.purge t).distinct
  rw [hlive, List.map_append, List.map_cons, List.nodup_middle, ← List.map_append] at hdistinct
  obtain ⟨hheld, hvictim⟩ := (hmem victim e').1 (List.mem_append_right _ List.mem_cons_self)
  have hother : ∀ z ∈ l₁ ++ l₂, z.1 ≠ victim :=
    fun z hz heq => (List.nodup_cons.1 hdistinct).1 (List.mem_map.2 ⟨z, hz, heq⟩)
  have hnew : ((store p h).create p t e).1 ≠ victim := by
    rintro rfl
    exact Store.not_issued_create _ p t e (hs.issued _ (hs.find?_eq_some.1 hheld))
  refine ⟨victim, e', hheld, hvictim, ?_, ?_, ?_⟩
  · rw [Store.find?_eq_none, hleft]
    intro z hz
    rcases List.mem_append.1 hz with hz | hz
    · exact hother z hz
    · rwa [List.mem_singleton.1 hz]
  · rintro k ⟨hk, hkv⟩ e₁ he₁
    have hiff := hmem k e₁
    rw [and_iff_left he₁] at hiff
    rw [← hiff, hs'.find?_eq_some, hleft]
    simp [hk, hkv]
  · intro k e₁ hfind hlive₁ hk
    rcases List.mem_append.1 ((hmem k e₁).2 ⟨hfind, hlive₁⟩) with hz | hz
    · exact .inl (hbefore _ hz)
    · rcases List.mem_cons.1 hz with hz | hz
      · exact absurd (Prod.mk.inj hz).1 hk
      · exact (hafter _ hz).lt_or_eq.imp_right fun heq =>
          ⟨heq, List.rel_of_pairwise_cons (List.pairwise_append.1 horder).2.1 hz⟩

/-- Whatever the clock does a store holds no more than its capacity. On a clock that does not go
back, a new entry is held, and of the others it costs none as long as there is room and one if there
is not. -/
theorem capacity_kept (p : Policy) (h : History) :
    (store p h).entries.length ≤ p.capacity ∧
      ∀ t e, (∀ a b, a ≤ b → p.deadline a ≤ p.deadline b) → 0 < p.capacity →
        (h.map Prod.fst ++ [t]).Pairwise (· ≤ ·) →
          CreatesWithin p h t e ((store p h).create p t e).1 ((store p h).create p t e).2 := by
  refine ⟨length_store_le p h, fun t e hmono hcapacity hclock => ?_⟩
  have hs := sound_store p h
  have hlatest : ∀ y ∈ (store p h).entries, y.2.expiresAt ≤ p.deadline t := by
    intro y hy
    obtain ⟨z, hz, hdue⟩ := expiresAt_of_mem_store hy
    rw [hdue]
    exact hmono z.1 t ((List.pairwise_append.1 hclock).2.2 z.1 (List.mem_map_of_mem hz) t
      List.mem_cons_self)
  exact ⟨hs.find?_create_self hcapacity hlatest, fun hroom => hs.agreeOn_create hroom e,
    fun hfull => evicts_of_full hcapacity hlatest hfull e⟩

/-- A store for two entries as long-lived as those of searches, and two of one deadline. -/
def tiePolicy : Policy :=
  ⟨2, Instant.after 900⟩

def tie : History :=
  [(5, .create (sampleEntry 1)), (5, .create (sampleEntry 2))]

/-- A third entry takes the place of the first. -/
theorem capacity_kept_of_tie :
    (∀ a b, a ≤ b → tiePolicy.deadline a ≤ tiePolicy.deadline b) ∧
      (tie.map Prod.fst ++ [5]).Pairwise (· ≤ ·) ∧
      (store tiePolicy tie).entries.map Prod.fst = ["cursor-1", "cursor-2"] ∧
      ((store tiePolicy tie).create tiePolicy 5 (sampleEntry 1)).2.entries.map Prod.fst =
        ["cursor-2", "cursor-3"] ∧
      CreatesWithin tiePolicy tie 5 (sampleEntry 1) "cursor-3"
        ((store tiePolicy tie).create tiePolicy 5 (sampleEntry 1)).2 := by
  have hmono : ∀ a b, a ≤ b → tiePolicy.deadline a ≤ tiePolicy.deadline b :=
    fun _ _ h => Instant.after_mono 900 h
  have hclock : (tie.map Prod.fst ++ [5]).Pairwise (· ≤ ·) := by decide
  refine ⟨hmono, hclock, by decide +kernel, ?_, ?_⟩
  · rw [Store.create_eq, Store.evict, List.mergeSort_of_pairwise (by decide +kernel)]
    decide +kernel
  · exact (capacity_kept tiePolicy tie).2 5 (sampleEntry 1) hmono (by decide) hclock

lemma absent_store (hissued : (store p h).Issued token) (hnone : (store p h).find? token = none)
    (after : History) :
    (store p (h ++ after)).Issued token ∧ (store p (h ++ after)).find? token = none := by
  induction after using List.reverseRecOn with
  | nil => exact ⟨(List.append_nil h).symm ▸ hissued, (List.append_nil h).symm ▸ hnone⟩
  | append_singleton after x ih =>
    rw [← List.append_assoc, store_append]
    exact ⟨ih.1.perform p x, (sound_store p _).find?_perform_none ih.1 ih.2⟩

/-- Nothing comes back under a token. Whatever the clock does, once nothing is found under one that
was returned, nothing will ever be found there, and moving it on or deleting it does no more to a
store than any other use: it drops what has come due and leaves what is live. -/
theorem gone_for_good (p : Policy) (h after : History) (t : Instant) (token : String)
    (hcreated : ∃ before, Creates p h token before)
    (hnone : ((store p h).get t token).1 = none) (t' : Instant) (offset : Int) :
    let s := store p (h ++ (t, .get token) :: after)
    (s.get t' token).1 = none ∧ s.advance p t' token offset = s.purge t' ∧
      s.delete t' token = s.purge t' ∧ s.AgreeOn t' (fun _ => True) (s.purge t') := by
  intro s
  obtain ⟨before, hcreated⟩ := hcreated
  have hgot : store p (h ++ [(t, .get token)]) = (store p h).purge t := store_append p h _
  have hdead : (store p (h ++ [(t, .get token)])).find? token = none := by
    rw [hgot]
    exact hnone
  have habsent : s.find? token = none := by
    have hlater := (absent_store (hcreated.append (t, .get token)).issued hdead after).2
    rwa [List.append_assoc, List.singleton_append] at hlater
  exact ⟨Store.get_of_absent habsent t', Store.advance_of_absent habsent p t' offset,
    Store.delete_of_absent habsent t', (sound_store p _).agreeOn_purge t' _⟩

/-- The clock goes back to a time at which the first entry would be live, had it not been dropped;
the second one is there still. -/
theorem gone_for_good_of_setback : ∃ (h after : History) (e : Entry),
    h.map Prod.fst = [0, 5] ∧ after.map Prod.fst = [2] ∧
      ((store samplePolicy h).get 3 "cursor-1").1 ≠ none ∧
      ((store samplePolicy h).get 10 "cursor-1").1 = none ∧
      ((store samplePolicy (h ++ (10, .get "cursor-1") :: after)).get 3 "cursor-1").1 = none ∧
      (store samplePolicy (h ++ (10, .get "cursor-1") :: after)).find? "cursor-2" = some e ∧
      ((store samplePolicy (h ++ (10, .get "cursor-1") :: after)).advance samplePolicy 3
        "cursor-1" 2).find? "cursor-2" = some e := by
  let h : History := [(0, .create (sampleEntry 1)), (5, .create (sampleEntry 1))]
  let after : History := [(2, .advance "cursor-1" 2)]
  have hcreated : ∃ before, Creates samplePolicy h "cursor-1" before :=
    ⟨[], 0, sampleEntry 1, _, rfl, by decide +kernel⟩
  have hnone : ((store samplePolicy h).get 10 "cursor-1").1 = none := by decide +kernel
  obtain ⟨hget, hadvance, -, hagrees⟩ :=
    gone_for_good samplePolicy h after 10 "cursor-1" hcreated hnone 3 2
  have hheld : (store samplePolicy (h ++ (10, .get "cursor-1") :: after)).find? "cursor-2" =
      some { sampleEntry 1 with expiresAt := 15 } := by decide +kernel
  refine ⟨h, after, _, rfl, rfl, by decide +kernel, hnone, hget, hheld, ?_⟩
  rw [hadvance]
  exact (hagrees "cursor-2" trivial _ (by decide)).2 hheld

end History

end Mailroom.Cursor
