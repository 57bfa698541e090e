import Mathlib.Data.Set.Card
import Mailroom.Proofs.CursorStore

/-!
# The history of a cursor store

A store drops what has come due only when it is used again, and what exceeds its capacity. Seen from
outside it is a timed map: under a token there is what was created there, until it is deleted or
comes due, and only an update that finds it live renews it.
-/

namespace Mailroom.Cursor

namespace Store

variable {s : Store} {p : Policy} {now : Instant} {token : String} {e e' : Entry}

/-- Tokens that stand for live entries are as many as the entries that a purge leaves. -/
lemma Sound.ncard_live (h : s.Sound) (now : Instant) :
    {token | ∃ e, s.find? token = some e ∧ isLive now e}.ncard = (s.purge now).entries.length := by
  have hset : {token | ∃ e, s.find? token = some e ∧ isLive now e} =
      ((s.purge now).entries.map Prod.fst).toFinset := by
    ext token
    simp only [Set.mem_ofPred_eq, List.coe_toFinset, List.mem_map, Prod.exists, exists_and_right,
      exists_eq_right]
    exact exists_congr fun e => by rw [mem_purge, h.find?_eq_some]
  rw [hset, Set.ncard_coe_finset, List.toFinset_card_of_nodup (h.purge now).distinct,
    List.length_map]

/-- Eviction spares live entries as long as there is room for all of them: of the entries that go
none has a later deadline than one that stays. -/
lemma Sound.mem_evict (h : s.Sound) {capacity : Nat}
    (hroom : (s.purge now).entries.length ≤ capacity) {x : String × Entry} (hx : x ∈ s.entries)
    (hlive : isLive now x.2) : x ∈ (evict capacity s).entries := by
  refine List.mem_filter.2 ⟨hx, ?_⟩
  simp only [Bool.not_eq_true', List.any_eq_false, beq_iff_eq]
  intro y hy hyx
  have hperm := List.mergeSort_perm s.entries goesFirst
  obtain rfl : y = x := h.eq_of_mem (hperm.mem_iff.1 (List.mem_of_mem_take hy)) hx hyx
  generalize hk : s.entries.length - capacity = k at hy
  have hsorted : (s.entries.mergeSort goesFirst).Pairwise fun a b => goesFirst a b :=
    List.pairwise_mergeSort goesFirst_trans goesFirst_total _
  have hlength := hperm.length_eq
  have hpurged : (s.purge now).entries.length =
      ((s.entries.mergeSort goesFirst).filter fun z => isLive now z.2).length :=
    (hperm.filter _).length_eq.symm
  rw [hpurged] at hroom
  rw [← List.take_append_drop k (s.entries.mergeSort goesFirst)] at hsorted hroom
  have hstay : ((s.entries.mergeSort goesFirst).drop k).filter (fun z => isLive now z.2) =
      (s.entries.mergeSort goesFirst).drop k := by
    refine List.filter_eq_self.2 fun z hz => ?_
    have hyz := (List.pairwise_append.1 hsorted).2.2 y hy z hz
    simp only [goesFirst, isLive, decide_eq_true_eq] at hyz hlive ⊢
    exact Int.lt_of_lt_of_le hlive hyz
  have hgo : 0 < (((s.entries.mergeSort goesFirst).take k).filter fun z => isLive now z.2).length :=
    List.length_pos_of_mem (List.mem_filter.2 ⟨hy, hlive⟩)
  have hk0 : 0 < k := by
    have := List.length_pos_of_mem hy
    rw [List.length_take] at this
    omega
  rw [List.filter_append, List.length_append, hstay, List.length_drop] at hroom
  omega

end Store

/-- An operation on a store. -/
inductive Operation where
  | create (e : Entry)
  | get (token : String)
  | advance (token : String) (offset : Int)
  | delete (token : String)
  | size

def Store.perform (p : Policy) (s : Store) : Instant × Operation → Store
  | (t, .create e) => (s.create p t e).2
  | (t, .get token) => (s.get t token).2
  | (t, .advance token offset) => s.advance p t token offset
  | (t, .delete token) => s.delete t token
  | (t, .size) => (s.size t).2

/-- The operations on a store and the times at which they happened, the earliest first. -/
abbrev History := List (Instant × Operation)

/-- How far an entry was moved on, and when it was last renewed. -/
structure Lease where
  offset : Int
  renewed : Instant

namespace Lease

/-- An update renews an entry and moves it on if it finds the entry live. Nothing else does. -/
def next (p : Policy) (token : String) (l : Lease) : Instant × Operation → Lease
  | (t, .advance token' offset) =>
    if token' = token ∧ t < p.deadline l.renewed then ⟨offset, t⟩ else l
  | _ => l

def after (p : Policy) (token : String) (l : Lease) (h : History) : Lease :=
  h.foldl (next p token) l

end Lease

namespace History

def store (p : Policy) (h : History) : Store :=
  h.foldl (Store.perform p) .empty

/-- What a history leaves under a token, dropped or not: the entry that a creation returned the
token for, unless it was deleted since, as its lease says. -/
def Leaves (p : Policy) (h : History) (token : String) (l : Lease) (e : Entry) : Prop :=
  ∃ before t₀ e₀ after, h = before ++ (t₀, .create e₀) :: after ∧
    ((store p before).create p t₀ e₀).1 = token ∧ (∀ x ∈ after, x.2 ≠ .delete token) ∧
    l = Lease.after p token ⟨e₀.offset, t₀⟩ after ∧
    e = { e₀ with offset := l.offset, expiresAt := p.deadline l.renewed }

/-- What a timed map holds at some time: what its history leaves, if the deadline of its last
renewal lay ahead at every time since. -/
def Holds (p : Policy) (h : History) (t : Instant) (token : String) (e : Entry) : Prop :=
  ∃ l, Leaves p h token l e ∧
    ∀ t', t' = t ∨ t' ∈ h.map Prod.fst → l.renewed ≤ t' → t' < p.deadline l.renewed

/-- After no creation there are more live entries than the capacity. -/
def Roomy (p : Policy) (h : History) : Prop :=
  ∀ before t₀ e₀ after, h = before ++ (t₀, .create e₀) :: after →
    {token | ∃ e, Holds p (before ++ [(t₀, .create e₀)]) t₀ token e}.ncard ≤ p.capacity

variable {p : Policy} {h : History} {t : Instant} {token : String} {l l' : Lease} {e e' : Entry}
variable {x : Instant × Operation}

lemma store_append (p : Policy) (h : History) (x : Instant × Operation) :
    store p (h ++ [x]) = (store p h).perform p x := by
  rw [store, List.foldl_append]
  rfl

lemma Roomy.of_append (hroom : Roomy p (h ++ [x])) : Roomy p h := by
  intro before t₀ e₀ after hsplit
  exact hroom before t₀ e₀ (after ++ [x]) (by rw [hsplit, List.append_assoc, List.cons_append])

lemma Roomy.at_end {t₀ : Instant} {e₀ : Entry} (hroom : Roomy p (h ++ [(t₀, .create e₀)])) :
    {token | ∃ e, Holds p (h ++ [(t₀, .create e₀)]) t₀ token e}.ncard ≤ p.capacity :=
  hroom h t₀ e₀ [] rfl

/-- What one more operation leaves is what was left before, renewed perhaps but not deleted, or a
new entry. -/
lemma leaves_append : Leaves p (h ++ [x]) token l' e' ↔
    (∃ l e, Leaves p h token l e ∧ x.2 ≠ .delete token ∧ l' = l.next p token x ∧
      e' = { e with offset := l'.offset, expiresAt := p.deadline l'.renewed }) ∨
    (∃ e₀, x.2 = .create e₀ ∧ ((store p h).create p x.1 e₀).1 = token ∧
      l' = ⟨e₀.offset, x.1⟩ ∧ e' = { e₀ with expiresAt := p.deadline x.1 }) := by
  constructor
  · rintro ⟨before, t₀, e₀, after, hsplit, htoken, hkept, hl, he⟩
    rcases List.eq_nil_or_concat' after with rfl | ⟨after, y, rfl⟩
    · obtain ⟨rfl, hx⟩ := List.append_inj' hsplit rfl
      obtain rfl := List.singleton_inj.1 hx
      obtain rfl : l' = ⟨e₀.offset, t₀⟩ := hl
      exact .inr ⟨e₀, rfl, htoken, rfl, he⟩
    · rw [← List.cons_append, ← List.append_assoc] at hsplit
      obtain ⟨rfl, hx⟩ := List.append_inj' hsplit rfl
      obtain rfl := List.singleton_inj.1 hx
      refine .inl ⟨Lease.after p token ⟨e₀.offset, t₀⟩ after, _,
        ⟨before, t₀, e₀, after, rfl, htoken, ?_, rfl, rfl⟩, ?_, ?_, he⟩
      · exact fun z hz => hkept z (List.mem_append_left _ hz)
      · exact hkept x (List.mem_append_right _ List.mem_cons_self)
      · rw [hl, Lease.after, List.foldl_append]
        rfl
  · rintro (⟨l, e, ⟨before, t₀, e₀, after, rfl, htoken, hkept, rfl, rfl⟩, hx, rfl, rfl⟩ |
      ⟨e₀, hx, htoken, rfl, rfl⟩)
    · refine ⟨before, t₀, e₀, after ++ [x], by rw [List.append_assoc, List.cons_append], htoken, ?_,
        ?_, rfl⟩
      · intro z hz
        rcases List.mem_append.1 hz with hz | hz
        · exact hkept z hz
        · rw [List.mem_singleton.1 hz]
          exact hx
      · rw [Lease.after, Lease.after, List.foldl_append]
        rfl
    · obtain ⟨t₀, o⟩ := x
      obtain rfl : o = .create e₀ := hx
      exact ⟨h, t₀, e₀, [], rfl, htoken, fun z hz => absurd hz List.not_mem_nil, rfl, rfl⟩

lemma Leaves.entry (hl : Leaves p h token l e) :
    e = { e with offset := l.offset, expiresAt := p.deadline l.renewed } := by
  obtain ⟨before, t₀, e₀, after, -, -, -, -, rfl⟩ := hl
  rfl

lemma Leaves.expiresAt (hl : Leaves p h token l e) : e.expiresAt = p.deadline l.renewed :=
  congrArg Entry.expiresAt hl.entry

lemma Leaves.renewed_le (hl : Leaves p h token l e) (hpast : ∀ y ∈ h, y.1 ≤ t) :
    l.renewed ≤ t := by
  induction h using List.reverseRecOn generalizing l e with
  | nil =>
    obtain ⟨before, t₀, e₀, after, hsplit, -⟩ := hl
    simp at hsplit
  | append_singleton h x ih =>
    have hx : x.1 ≤ t := hpast x (List.mem_append_right _ List.mem_cons_self)
    rcases leaves_append.1 hl with ⟨l, e, hl₀, -, rfl, -⟩ | ⟨e₀, -, -, rfl, -⟩
    · have hle := ih hl₀ fun y hy => hpast y (List.mem_append_left _ hy)
      obtain ⟨t₀, o⟩ := x
      cases o with
      | advance token' offset =>
        simp only [Lease.next]
        split
        · exact hx
        · exact hle
      | create | get | delete | size => exact hle
    · exact hx

/-- On a clock that does not go back a deadline that lies ahead has always lain ahead. -/
lemma holds_iff (hpast : ∀ y ∈ h, y.1 ≤ t) :
    Holds p h t token e ↔ (∃ l, Leaves p h token l e) ∧ t < e.expiresAt := by
  constructor
  · rintro ⟨l, hl, hahead⟩
    exact ⟨⟨l, hl⟩, hl.expiresAt ▸ hahead t (.inl rfl) (hl.renewed_le hpast)⟩
  · rintro ⟨⟨l, hl⟩, hlive⟩
    refine ⟨l, hl, fun t' ht' _ => hl.expiresAt ▸ Int.lt_of_le_of_lt ?_ hlive⟩
    rcases ht' with rfl | ht'
    · exact Int.le_refl _
    · obtain ⟨y, hy, rfl⟩ := List.mem_map.1 ht'
      exact hpast y hy

/-- Of what is live from some time on, a store has what a history leaves. -/
def Tracks (p : Policy) (h : History) (t : Instant) (s : Store) : Prop :=
  ∀ token e, t < e.expiresAt → (s.find? token = some e ↔ ∃ l, Leaves p h token l e)

lemma Tracks.mono {s : Store} {t' : Instant} (ht : Tracks p h t s) (hle : t ≤ t') :
    Tracks p h t' s :=
  fun token e hlive => ht token e (Int.lt_of_le_of_lt hle hlive)

/-- An operation that neither creates nor moves on nor deletes leaves things as they are. -/
lemma leaves_append_of_next (hx : ∀ e₀, x.2 ≠ .create e₀)
    (hnext : ∀ l : Lease, l.next p token x = l) :
    Leaves p (h ++ [x]) token l e ↔ Leaves p h token l e ∧ x.2 ≠ .delete token := by
  rw [leaves_append]
  constructor
  · rintro (⟨l₀, e₀, hl₀, hkept, rfl, rfl⟩ | ⟨e₀, hcreate, -⟩)
    · rw [hnext l₀, ← hl₀.entry]
      exact ⟨hl₀, hkept⟩
    · exact absurd hcreate (hx e₀)
  · rintro ⟨hl, hkept⟩
    exact .inl ⟨l, e, hl, hkept, (hnext l).symm, hl.entry⟩

lemma tracks_purge {s : Store} (hs : s.Sound) (ht : Tracks p h t s)
    (hx : ∀ e₀, x.2 ≠ .create e₀) (hnext : ∀ (l : Lease) token, l.next p token x = l)
    (hkept : ∀ token, x.2 ≠ .delete token) : Tracks p (h ++ [x]) t (s.purge t) := by
  intro token e hlive
  rw [hs.find?_purge, ht token e hlive, Store.isLive, decide_eq_true_eq, and_iff_left hlive]
  exact exists_congr fun l => by
    rw [leaves_append_of_next hx fun l => hnext l token, and_iff_left (hkept token)]

lemma tracks_delete {s : Store} {token' : String} (hs : s.Sound) (ht : Tracks p h t s) :
    Tracks p (h ++ [(t, .delete token')]) t (s.delete t token') := by
  intro token e hlive
  rw [hs.find?_delete, ht token e hlive, Store.isLive, decide_eq_true_eq, and_iff_left hlive,
    ← exists_and_left]
  refine exists_congr fun l => ?_
  rw [leaves_append_of_next (fun _ h => by cases h) fun _ => rfl, and_comm, ne_eq, ne_eq,
    Operation.delete.injEq, eq_comm]

lemma tracks_advance {s : Store} {token' : String} {offset : Int} (hs : s.Sound)
    (ht : Tracks p h t s) :
    Tracks p (h ++ [(t, .advance token' offset)]) t (s.advance p t token' offset) := by
  intro token e' hlive
  rw [hs.find?_advance]
  constructor
  · rintro ⟨e, hfind, hlive₀, rfl⟩
    have hlive₀ : t < e.expiresAt := of_decide_eq_true hlive₀
    obtain ⟨l, hl⟩ := (ht token e hlive₀).1 hfind
    refine ⟨l.next p token (t, .advance token' offset),
      leaves_append.2 (.inl ⟨l, e, hl, (fun h => by cases h), rfl, ?_⟩)⟩
    rw [hl.expiresAt] at hlive₀
    by_cases htoken : token = token'
    · simp [Lease.next, htoken, hlive₀]
    · simpa [Lease.next, htoken, Ne.symm htoken] using hl.entry
  · rintro ⟨l', hl'⟩
    rcases leaves_append.1 hl' with ⟨l, e, hl, -, rfl, rfl⟩ | ⟨e₀, hcreate, -⟩
    · have hlive₀ : t < e.expiresAt := by
        rw [hl.expiresAt]
        by_contra hdue
        simp [Lease.next, hdue] at hlive
      refine ⟨e, (ht token e hlive₀).2 ⟨l, hl⟩, decide_eq_true hlive₀, ?_⟩
      rw [hl.expiresAt] at hlive₀
      by_cases htoken : token = token'
      · simp [Lease.next, htoken, hlive₀]
      · simpa [Lease.next, htoken, Ne.symm htoken] using hl.entry.symm
    · cases hcreate

lemma tracks_pushed {e₀ : Entry} (hs : (store p h).Sound) (ht : Tracks p h t (store p h)) :
    Tracks p (h ++ [(t, .create e₀)]) t ((store p h).pushed p t e₀) := by
  intro token e hlive
  rw [hs.find?_pushed, ht token e hlive, Store.isLive, decide_eq_true_eq, and_iff_left hlive]
  constructor
  · rintro (⟨l, hl⟩ | ⟨rfl, rfl⟩)
    · exact ⟨l, leaves_append.2 (.inl ⟨l, e, hl, (fun h => by cases h), rfl, hl.entry⟩)⟩
    · exact ⟨⟨e₀.offset, t⟩, leaves_append.2 (.inr ⟨e₀, rfl, rfl, rfl, rfl⟩)⟩
  · rintro ⟨l, hl⟩
    rcases leaves_append.1 hl with ⟨l₀, e, hl₀, -, rfl, rfl⟩ | ⟨e, hcreate, rfl, -, rfl⟩
    · exact .inl ⟨_, hl₀.entry ▸ hl₀⟩
    · obtain rfl := Operation.create.inj hcreate
      exact .inr ⟨rfl, rfl⟩

/-- The tokens that stand for something, by the store and by its history, are the same. -/
lemma Tracks.held_eq {s : Store} (ht : Tracks p h t s) (hpast : ∀ y ∈ h, y.1 ≤ t) :
    {token | ∃ e, Holds p h t token e} =
      {token | ∃ e, s.find? token = some e ∧ Store.isLive t e} := by
  ext token
  refine exists_congr fun e => ?_
  rw [holds_iff hpast, Store.isLive, decide_eq_true_eq]
  exact and_congr_left fun hlive => (ht token e hlive).symm

lemma tracks_create {e₀ : Entry} (hs : (store p h).Sound) (ht : Tracks p h t (store p h))
    (hfits : (((store p h).pushed p t e₀).purge t).entries.length ≤ p.capacity) :
    Tracks p (h ++ [(t, .create e₀)]) t ((store p h).create p t e₀).2 := by
  have hpushed : Tracks p (h ++ [(t, .create e₀)]) t ((store p h).pushed p t e₀) :=
    tracks_pushed hs ht
  intro token e hlive
  rw [← hpushed token e hlive, (hs.create p t e₀).find?_eq_some, (hs.pushed p t e₀).find?_eq_some,
    Store.create_eq]
  constructor
  · exact List.mem_of_mem_filter
  · exact fun hmem => (hs.pushed p t e₀).mem_evict hfits hmem (decide_eq_true hlive)

/-- A creation exceeds the capacity if it leaves the store with too many live entries, before any
are evicted. -/
lemma ncard_held_create {e₀ : Entry} (hs : (store p h).Sound) (ht : Tracks p h t (store p h))
    (hpast : ∀ y ∈ h, y.1 ≤ t) :
    {token | ∃ e, Holds p (h ++ [(t, .create e₀)]) t token e}.ncard =
      (((store p h).pushed p t e₀).purge t).entries.length := by
  have hpast' : ∀ y ∈ h ++ [(t, Operation.create e₀)], y.1 ≤ t := by
    intro y hy
    rcases List.mem_append.1 hy with hy | hy
    · exact hpast y hy
    · rw [List.mem_singleton.1 hy]
  rw [(tracks_pushed hs ht).held_eq hpast', (hs.pushed p t e₀).ncard_live]

/-- One more operation. -/
lemma tracks_perform (hs : (store p h).Sound) (ht : Tracks p h x.1 (store p h))
    (hpast : ∀ y ∈ h, y.1 ≤ x.1) (hroom : Roomy p (h ++ [x])) :
    ((store p h).perform p x).Sound ∧ Tracks p (h ++ [x]) x.1 ((store p h).perform p x) := by
  obtain ⟨t, o⟩ := x
  cases o with
  | create e₀ =>
    have hfits := hroom.at_end
    rw [ncard_held_create hs ht hpast] at hfits
    exact ⟨hs.create p t e₀, tracks_create hs ht hfits⟩
  | advance token offset => exact ⟨hs.advance p t token offset, tracks_advance hs ht⟩
  | delete token => exact ⟨hs.delete t token, tracks_delete hs ht⟩
  | get | size =>
    exact ⟨hs.purge t, tracks_purge hs ht (fun _ h => by cases h) (fun _ _ => rfl)
      fun _ h => by cases h⟩

/-- A whole history. -/
lemma tracks_store (h : History) (hclock : (h.map Prod.fst).Pairwise (· ≤ ·)) (hroom : Roomy p h)
    (t : Instant) (hpast : ∀ y ∈ h, y.1 ≤ t) : (store p h).Sound ∧ Tracks p h t (store p h) := by
  induction h using List.reverseRecOn generalizing t with
  | nil =>
    refine ⟨Store.sound_empty, fun token e _ => ⟨fun hfind => (by cases hfind), ?_⟩⟩
    rintro ⟨l, before, t₀, e₀, after, hsplit, -⟩
    simp at hsplit
  | append_singleton h x ih =>
    rw [List.map_append, List.pairwise_append] at hclock
    have hx : ∀ y ∈ h, y.1 ≤ x.1 := fun y hy =>
      hclock.2.2 y.1 (List.mem_map_of_mem hy) x.1 List.mem_cons_self
    obtain ⟨hs, ht⟩ := ih hclock.1 hroom.of_append x.1 hx
    obtain ⟨hs', ht'⟩ := tracks_perform hs ht hx hroom
    rw [store_append]
    exact ⟨hs', ht'.mono (hpast x (List.mem_append_right _ List.mem_cons_self))⟩

/-- One more operation keeps to the capacity unless it is a creation for which there is no room. -/
lemma Roomy.append (hroom : Roomy p h) (hclock : ((h ++ [x]).map Prod.fst).Pairwise (· ≤ ·))
    (hfits : ∀ e₀, x.2 = .create e₀ →
      (((store p h).pushed p x.1 e₀).purge x.1).entries.length ≤ p.capacity) :
    Roomy p (h ++ [x]) := by
  rw [List.map_append, List.pairwise_append] at hclock
  have hpast : ∀ y ∈ h, y.1 ≤ x.1 := fun y hy =>
    hclock.2.2 y.1 (List.mem_map_of_mem hy) x.1 List.mem_cons_self
  intro before t₀ e₀ after hsplit
  rcases List.eq_nil_or_concat' after with rfl | ⟨after, y, rfl⟩
  · obtain ⟨rfl, hx⟩ := List.append_inj' hsplit rfl
    obtain rfl := List.singleton_inj.1 hx
    obtain ⟨hs, ht⟩ := tracks_store h hclock.1 hroom t₀ hpast
    rw [ncard_held_create hs ht hpast]
    exact hfits e₀ rfl
  · rw [← List.cons_append, ← List.append_assoc] at hsplit
    exact hroom before t₀ e₀ after (List.append_inj' hsplit rfl).1

/-- A store is a timed map. On a clock that does not go back, and as long as creations do not exceed
its capacity, it answers for a token what its history holds there, and counts the tokens that its
history holds. -/
theorem refines_timed_map (p : Policy) (h : History) (t : Instant)
    (hclock : (h.map Prod.fst ++ [t]).Pairwise (· ≤ ·)) (hroom : Roomy p h) :
    (∀ token e, ((store p h).get t token).1 = some e ↔ Holds p h t token e) ∧
      ((store p h).size t).1 = {token | ∃ e, Holds p h t token e}.ncard := by
  rw [List.pairwise_append] at hclock
  have hpast : ∀ y ∈ h, y.1 ≤ t := fun y hy =>
    hclock.2.2 y.1 (List.mem_map_of_mem hy) t List.mem_cons_self
  obtain ⟨hs, ht⟩ := tracks_store h hclock.1 hroom t hpast
  constructor
  · intro token e
    rw [hs.get_eq_some, holds_iff hpast, Store.isLive, decide_eq_true_eq]
    exact and_congr_left fun hlive => ht token e hlive
  · rw [ht.held_eq hpast, hs.ncard_live]
    rfl

/-- A policy of two entries for ten units of time, and entries that are renewed in time and too
late, that outlive each other and are deleted. -/
def samplePolicy : Policy :=
  ⟨2, (· + 10)⟩

def sampleEntry (offset : Int) : Entry :=
  ⟨"default", "INBOX", 1, [3, 2, 1], offset, false, 0, 0⟩

def sample : History :=
  [(0, .create (sampleEntry 1)), (1, .create (sampleEntry 1)), (4, .advance "cursor-1" 2),
    (11, .advance "cursor-2" 2), (12, .create (sampleEntry 1)), (13, .delete "cursor-3")]

lemma roomy_sample : Roomy samplePolicy sample := by
  have hnil : Roomy samplePolicy [] := fun before t₀ e₀ after hsplit => by simp at hsplit
  have hfirst : Roomy samplePolicy (sample.take 1) :=
    hnil.append (by decide) (by rintro _ ⟨⟩; decide +kernel)
  have hsecond : Roomy samplePolicy (sample.take 2) :=
    hfirst.append (by decide) (by rintro _ ⟨⟩; decide +kernel)
  have hrenewed : Roomy samplePolicy (sample.take 4) :=
    (hsecond.append (by decide) (by rintro _ ⟨⟩)).append (by decide) (by rintro _ ⟨⟩)
  have hthird : Roomy samplePolicy (sample.take 5) :=
    hrenewed.append (by decide) (by rintro _ ⟨⟩; decide +kernel)
  exact hthird.append (by decide) (by rintro _ ⟨⟩)

theorem refines_timed_map_of_sample :
    (sample.map Prod.fst ++ [13]).Pairwise (· ≤ ·) ∧ Roomy samplePolicy sample ∧
      (∀ e, Holds samplePolicy sample 13 "cursor-1" e ↔
        e = { sampleEntry 2 with expiresAt := 14 }) ∧
      (∀ e, ¬ Holds samplePolicy sample 13 "cursor-2" e) ∧
      {token | ∃ e, Holds samplePolicy sample 13 token e}.ncard = 1 := by
  have hclock : (sample.map Prod.fst ++ [13]).Pairwise (· ≤ ·) := by decide
  obtain ⟨hget, hsize⟩ := refines_timed_map samplePolicy sample 13 hclock roomy_sample
  refine ⟨hclock, roomy_sample, fun e => ?_, fun e hheld => ?_, ?_⟩
  · have hfirst : ((store samplePolicy sample).get 13 "cursor-1").1 =
        some { sampleEntry 2 with expiresAt := 14 } := by decide +kernel
    rw [← hget, hfirst, Option.some.injEq, eq_comm]
  · have hsecond : ((store samplePolicy sample).get 13 "cursor-2").1 = none := by decide +kernel
    rw [← hget, hsecond] at hheld
    cases hheld
  · rw [← hsize]
    decide +kernel

end History

end Mailroom.Cursor
