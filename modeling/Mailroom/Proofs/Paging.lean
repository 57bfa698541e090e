import Mathlib.Algebra.Order.BigOperators.Group.List
import Mathlib.Data.List.TakeDrop
import Mailroom.Proofs.CursorLife
import Mailroom.Proofs.SearchRun
import Mailroom.Proofs.SoundCommands

/-!
# Paging through a search

A chain of calls begins with a search and goes on with the cursor that each call returns. Its pages
attempt the messages that the search found, newest first, one slice after another, until none are
left; whatever else happens between the calls only has to spare the cursor.
-/

namespace Mailroom

open Imap

namespace Search.Request

/-- A request that can go on with an earlier one: of the same mailbox, without filters, and with a
limit and a length of snippets of its own. -/
structure Continues (first next : Search.Request) : Prop where
  accountId : next.accountId = first.accountId
  mailbox : next.mailbox = first.mailbox
  unfiltered : next.hasFilters = false
  limit : 1 ≤ next.limit ∧ next.limit ≤ maxLimit
  snippet : ∀ n, next.snippetMaxChars = some n → next.includeSnippet ∧ 50 ≤ n ∧ n ≤ 500

def resuming (r : Search.Request) (token : String) : Search.Request :=
  { r with cursor := some token }

lemma Continues.valid {first next : Search.Request} (h : first.Continues next)
    (hfirst : first.validate = .ok ()) (token : String) :
    (next.resuming token).validate = .ok () := by
  have ha := (validate_eq_ok.1 hfirst).accountId
  have hm := (validate_eq_ok.1 hfirst).mailbox
  obtain ⟨haccount, hmailbox, hplain, hlimit, hsnippet⟩ := h
  simp only [hasFilters, Bool.or_eq_false_iff, Option.isSome_eq_false_iff,
    Option.isNone_iff_eq_none] at hplain
  obtain ⟨⟨⟨⟨⟨⟨⟨hquery, hsender⟩, hrecipient⟩, hsubject⟩, hunread⟩, hdays⟩, hstart⟩, hend⟩ := hplain
  rw [← haccount] at ha
  rw [← hmailbox] at hm
  have hl : Check.range next.limit 1 maxLimit "limit" = .ok () := Check.range_eq_ok.2 hlimit
  unfold validate resuming
  simp only [ha, hm, hl, hquery, hsender, hrecipient, hsubject, hunread, hdays, hstart, hend,
    hasFilters, whenGiven]
  cases hn : next.snippetMaxChars with
  | none => rfl
  | some n =>
    obtain ⟨hincluded, hrange⟩ := hsnippet n hn
    simp only [Check.range_eq_ok.2 hrange, hincluded]
    rfl

end Search.Request

namespace Imap

/-- A peer whose clients report the values that they cannot use as servers report refusals. -/
def Peer.calmed {σ : Type} (p : Peer σ) : Peer σ where
  answer k c x :=
    let a := p.answer k c x
    { a with outcome := a.outcome.mapError fun f =>
        if f.kind = .value then { f with kind := .refusal } else f }
  setTimeout := p.setTimeout

lemma Peer.calmed_ne_value {σ : Type} {p : Peer σ} {k : ClientId} {c : Call} {x : σ} {f : Fault}
    (hf : (p.calmed.answer k c x).outcome = .error f) : f.kind ≠ .value := by
  simp only [calmed] at hf
  cases ho : (p.answer k c x).outcome with
  | ok _ =>
    rw [ho] at hf
    cases hf
  | error f' =>
    rw [ho] at hf
    cases hf
    by_cases hvalue : f'.kind = .value <;> simp [hvalue]

lemma Peer.orderly_calmed {σ : Type} (p : Peer σ) : p.calmed.Orderly :=
  fun _ _ _ _ _ hf => calmed_ne_value hf

end Imap

lemma Answer.Page.field?_hasMore (page : Answer.Page) :
    page.toJson.field? "has_more" = some (.bool page.nextCursor.isSome) := rfl

/-- One call of a chain, between the worlds before and after it. -/
structure Turn (σ : Type) where
  start : World σ
  request : Search.Request
  result : Except Failure Answer.Page
  finish : World σ

/-- A later call of a chain: what occurs before it, and what it asks but for the cursor. -/
structure Link (σ : Type) where
  before : List (Occurrence σ)
  today : Moment
  request : Search.Request

namespace Turn

variable {σ : Type}

/-- The cursor that a call returns. -/
def next? (t : Turn σ) : Option String :=
  t.result.toOption.bind (·.nextCursor)

/-- The answer of a call says that there are further messages. -/
def TellsMore (t : Turn σ) : Prop :=
  ∃ page, t.result = .ok page ∧ page.toJson.field? "has_more" = some (.bool true)

/-- A call gave a page whose messages and issues, in their order, are about a list of messages. -/
def Attempts (t : Turn σ) (uids : List Int) : Prop :=
  ∃ page b, t.result = .ok page ∧ Shows b page ∧ b.rows.map attemptedUid = uids.map some

/-- A call connects, selects with an epoch, and finds its cursor's entry live if it has one. -/
def Provided (v : Service σ) (epoch : Int) (t : Turn σ) : Prop :=
  ∃ s w, v.Selects t.start t.request s epoch w ∧ ∀ token, t.request.cursor = some token →
    ∃ e, w.cursors.find? token = some e ∧ Cursor.Store.isLive (Instant.ofMillis w.clock) e

/-- The server answers a call's search with some messages. -/
def Finds (v : Service σ) (epoch : Int) (uids : List Int) (t : Turn σ) : Prop :=
  ∃ s w criteria ts, v.Selects t.start t.request s epoch w ∧
    t.request.criteria v.today.date = .ok criteria ∧
    (v.peer.answer s.client (.search criteria (Search.charset? criteria)) w.remote).outcome =
      .ok ts ∧
    ts.mapM Token.toInt? = some uids

lemma tellsMore_iff {t : Turn σ} : t.TellsMore ↔ t.next? ≠ none := by
  rw [← Option.isSome_iff_ne_none]
  unfold TellsMore next?
  cases t.result with
  | error f =>
    constructor
    · rintro ⟨_, ⟨⟩, _⟩
    · rintro ⟨⟩
  | ok page =>
    constructor
    · rintro ⟨_, ⟨⟩, hmore⟩
      rw [page.field?_hasMore] at hmore
      exact Json.bool.inj (Option.some.inj hmore)
    · intro hnext
      have hnext : page.nextCursor.isSome = true := hnext
      exact ⟨page, rfl, by rw [page.field?_hasMore, hnext]⟩

end Turn

namespace Service

variable {σ : Type}

def turn (v : Service σ) (today : Moment) (w : World σ) (r : Search.Request) : Turn σ :=
  let x := Task.runIn w ({ v with today := today }.search r)
  ⟨w, r, x.1, x.2⟩

/-- The calls of a chain, each with the cursor that the one before it returned, as long as one
does. -/
def follow (v : Service σ) (t : Turn σ) : List (Link σ) → List (Turn σ)
  | [] => [t]
  | l :: ls =>
    match t.next? with
    | none => [t]
    | some token =>
      t :: v.follow (v.turn l.today (v.after t.finish l.before) (l.request.resuming token)) ls

end Service

/-- The rest of a list of messages from some place on is kept under a cursor. -/
def GoesOn {σ : Type} (r : Search.Request) (epoch : Int) (uids : List Int) (offset : Nat)
    (token : String) (w : World σ) : Prop :=
  ∃ e, Reserved token e w ∧ e.accountId = r.accountId ∧ e.mailbox = r.mailbox ∧
    e.uidvalidity = epoch ∧ e.uids = uids ∧ e.offset = offset

lemma slice_eq {α : Type} (xs : List α) (offset : Nat) {limit : Int} (h : 0 ≤ limit) :
    slice xs offset (offset + limit) = (xs.drop offset).take limit.toNat := by
  have hstart : place xs.length offset = offset := by
    unfold place
    rw [if_neg (by omega)]
    rfl
  have hstop : place xs.length (offset + limit) = offset + limit.toNat := by
    unfold place
    rw [if_neg (by omega)]
    omega
  rw [slice, hstart, hstop, List.take_drop]

section Turns

variable {σ : Type} {v : Service σ} {r q : Search.Request} {epoch : Int} {uids : List Int}
variable {offset : Nat} {token : String} {w w' : World σ} {today : Moment}
variable {b : Service.Sheet} {chunk : List Int} {page : Answer.Page}

lemma turn_eq {x : Except Failure Answer.Page}
    (h : Task.runIn w ({ v with today := today }.search q) = (x, w')) :
    v.turn today w q = ⟨w, q, x, w'⟩ := by
  unfold Service.turn
  rw [h]

/-- A page of a snapshot, before it is answered. -/
structure Chunk (n : Snapshot) (epoch : Int) (offset : Nat) (chunk : List Int)
    (b : Service.Sheet) : Prop where
  snapshot : b.snapshot = n
  epoch : b.epoch = epoch
  nextOffset : b.nextOffset = ((offset + chunk.length : Nat) : Int)
  rows : b.rows.map attemptedUid = chunk.map some

/-- From a snapshot a call attempts as many messages as it may, from the snapshot's place on. -/
lemma chunk_of_snapshot (hv : v.peer.Orderly) (hvalid : q.validate = .ok ()) {s : Session}
    {w₂ w₃ : World σ} (hselects : v.Selects w q s epoch w₂) {n : Snapshot}
    (hsnapshot : Task.runIn w₂ (v.snapshot s q epoch) = (.ok (.ok n), w₃))
    (hoffset : n.offset = offset) (hrange : offset ≤ n.uids.length) :
    ∃ b w₄, Chunk n epoch offset ((n.uids.drop offset).take q.limit.toNat) b ∧
      w₄.cursors = w₃.cursors ∧ Task.runIn w (v.search q) = Task.runIn w₄ (v.page q b) := by
  have hrange : n.offset ≤ n.uids.length := by
    rw [hoffset]
    exact Int.ofNat_le.2 hrange
  rcases search_of_snapshot hvalid hselects hsnapshot hrange with
    ⟨f, -, hbad⟩ | ⟨rows, w₄, hrows, hrest, hrun⟩
  · exact absurd hv hbad
  have hlimit := (Search.Request.validate_eq_ok.1 hvalid).limit.1
  rw [hoffset, slice_eq _ _ (by omega)] at hrows
  refine ⟨_, w₄, ⟨rfl, rfl, ?_, hrows⟩, hrest.1, hrun⟩
  have hlength := congrArg List.length hrows
  rw [List.length_map, List.length_map] at hlength
  rw [Service.Sheet.nextOffset, hoffset, hlength]
  rfl

/-- A call with a cursor attempts the next messages and moves the cursor behind them, or gives it up
if they are the last. -/
lemma turn_resumed (hv : v.peer.Orderly) (hvalid : q.validate = .ok ())
    (hcursor : q.cursor = some token) (haccount : q.accountId = r.accountId)
    (hmailbox : q.mailbox = r.mailbox) (hw : GoesOn r epoch uids offset token w)
    (hrange : offset ≤ uids.length) (ht : (v.turn today w q).Provided v epoch)
    (hchunk : chunk = (uids.drop offset).take q.limit.toNat) :
    (v.turn today w q).Attempts chunk ∧
      (offset + chunk.length < uids.length → (v.turn today w q).next? = some token ∧
        GoesOn r epoch uids (offset + chunk.length) token (v.turn today w q).finish) ∧
      (uids.length ≤ offset + chunk.length → (v.turn today w q).next? = none ∧
        (v.turn today w q).finish.cursors.find? token = none) := by
  obtain ⟨e, hreserved, hea, hem, rfl, rfl, heo⟩ := hw
  obtain ⟨s, w₂, hselects, hheld⟩ := ht
  have hselects : v.Selects w q s e.uidvalidity w₂ := hselects
  have hcursors : w₂.cursors = w.cursors := hselects.resting.1
  -- The entry that is held is the one that was left, for whatever was called since spares it.
  obtain ⟨e', hfind, hlive⟩ := hheld token hcursor
  rw [hcursors] at hfind
  obtain rfl : e' = e := hreserved.only e' hfind
  have hget : (w₂.cursors.get (Instant.ofMillis w₂.clock) token).1 = some e' := by
    rw [hcursors]
    exact hreserved.sound.get_eq_some.2 ⟨hfind, hlive⟩
  have hsnapshot := (snapshot_resumed_iff (v := { v with today := today }) (s := s) hcursor).2
    ⟨e', hget, hea.trans haccount.symm, hem.trans hmailbox.symm, rfl, rfl, rfl⟩
  obtain ⟨b, w₄, hb, hcursors₄, hrun⟩ := chunk_of_snapshot (v := { v with today := today }) hv
    hvalid hselects hsnapshot heo hrange
  rw [← hchunk] at hb
  by_cases hlast : e'.uids.length ≤ offset + chunk.length
  · have hend : b.snapshot.uids.length ≤ b.nextOffset := by
      rw [hb.nextOffset, hb.snapshot]
      exact Int.ofNat_le.2 hlast
    obtain ⟨page, w', hpage, hshows, hnext, -, hstore⟩ := runIn_page_last
      (v := { v with today := today }) (r := q) (w := w₄) hend
    rw [turn_eq (hrun.trans hpage)]
    refine ⟨⟨page, b, rfl, hshows, hb.rows⟩, fun h => absurd h (not_lt.2 hlast), fun _ =>
      ⟨hnext, ?_⟩⟩
    rw [hstore, hb.snapshot]
    exact Cursor.Store.find?_delete_self _
  · have hmore : b.nextOffset < b.snapshot.uids.length := by
      rw [hb.nextOffset, hb.snapshot]
      exact Int.ofNat_lt.2 (not_le.1 hlast)
    obtain ⟨page, w', hpage, hshows, hnext, -, hstore⟩ := runIn_page_resumed
      (v := { v with today := today }) (r := q) (w := w₄) hmore (by rw [hb.snapshot])
    rw [hcursors₄] at hstore
    dsimp only at hstore
    rw [hcursors] at hstore
    rw [turn_eq (hrun.trans hpage)]
    exact ⟨⟨page, b, rfl, hshows, hb.rows⟩, fun _ => ⟨hnext, _, hreserved.advance hstore, hea, hem,
      rfl, rfl, hb.nextOffset⟩, fun h => absurd h hlast⟩

/-- The first call attempts the first messages, and keeps the rest, if any, under a new cursor. -/
lemma turn_started (hv : v.peer.Orderly) (hvalid : q.validate = .ok ()) (hcursor : q.cursor = none)
    (hw : w.cursors.Sound) (hlength : uids.length ≤ maxMatches)
    (ht : (v.turn today w q).Finds { v with today := today } epoch uids)
    (hchunk : chunk = (newestFirst uids).take q.limit.toNat) :
    (v.turn today w q).Attempts chunk ∧
      (chunk.length < (newestFirst uids).length → ∃ token, (v.turn today w q).next? = some token ∧
        GoesOn q epoch (newestFirst uids) chunk.length token (v.turn today w q).finish) ∧
      ((newestFirst uids).length ≤ chunk.length → (v.turn today w q).next? = none) := by
  obtain ⟨s, w₂, criteria, ts, hselects, hcriteria, hanswer, huids⟩ := ht
  have hselects : v.Selects w q s epoch w₂ := hselects
  obtain ⟨n, w₃, hsnapshot, hn⟩ := snapshot_of_answer (v := { v with today := today }) hcursor
    hselects hcriteria hanswer huids hlength
  obtain ⟨⟨hnone, hoffset⟩, hcursors₃, -⟩ := snapshot_started hcursor hsnapshot
  have hzero : n.offset = (0 : Nat) := hoffset
  obtain ⟨b, w₄, hb, hcursors₄, hrun⟩ := chunk_of_snapshot (v := { v with today := today }) hv
    hvalid hselects hsnapshot hzero (Nat.zero_le _)
  rw [List.drop_zero, hn, ← hchunk] at hb
  by_cases hlast : (newestFirst uids).length ≤ chunk.length
  · have hend : b.snapshot.uids.length ≤ b.nextOffset := by
      rw [hb.nextOffset, hb.snapshot, hn, Nat.zero_add]
      exact Int.ofNat_le.2 hlast
    obtain ⟨page, w', hpage, hshows, hnext, -, -⟩ := runIn_page_last
      (v := { v with today := today }) (r := q) (w := w₄) hend
    rw [turn_eq (hrun.trans hpage)]
    exact ⟨⟨page, b, rfl, hshows, hb.rows⟩, fun h => absurd h (not_lt.2 hlast), fun _ => hnext⟩
  · have hmore : b.nextOffset < b.snapshot.uids.length := by
      rw [hb.nextOffset, hb.snapshot, hn, Nat.zero_add]
      exact Int.ofNat_lt.2 (not_le.1 hlast)
    obtain ⟨page, w', hpage, hshows, -, hstore⟩ := runIn_page_started
      (v := { v with today := today }) (r := q) (w := w₄) hmore (by rw [hb.snapshot, hnone])
    obtain ⟨hnext, hstore⟩ := Prod.mk.inj hstore
    have hsound : w₄.cursors.Sound := by
      rw [hcursors₄, hcursors₃, hselects.resting.1]
      exact hw
    have hentry : (entryFor q b).uids = newestFirst uids := by rw [entryFor, hb.snapshot, hn]
    have hplace : (entryFor q b).offset = (chunk.length : Nat) := by
      rw [entryFor, hb.nextOffset, Nat.zero_add]
    rw [turn_eq (hrun.trans hpage)]
    exact ⟨⟨page, b, rfl, hshows, hb.rows⟩, fun _ => ⟨_, hnext, _, reserved_create hsound hstore,
      rfl, rfl, hb.epoch, hentry, hplace⟩, fun h => absurd h hlast⟩

end Turns

section Chains

variable {σ : Type} {v : Service σ} {r q : Search.Request} {epoch : Int} {uids : List Int}
variable {offset : Nat} {token : String} {w : World σ} {today : Moment} {t : Turn σ}
variable {links : List (Link σ)} {G : World σ → Prop}

/-- Calls attempt a list of messages in order, one page after another. Every page but the last tells
of further messages, and the last does so exactly if some of the list are left; a page is empty only
if the list is. -/
structure Pages (uids : List Int) (init : List (Turn σ)) (last : Turn σ)
    (chunks : List (List Int)) : Prop where
  attempts : List.Forall₂ Turn.Attempts (init ++ [last]) chunks
  consecutive : chunks.flatten <+: uids
  filled : ∀ chunk ∈ chunks, chunk = [] → uids = [] ∧ init = []
  more : ∀ t ∈ init, t.TellsMore
  complete : ¬ last.TellsMore ↔ chunks.flatten = uids

/-- A chain pages a list of messages. It stops early only for want of calls, and a condition holds
if it comes to its end. -/
def Followed (v : Service σ) (uids : List Int) (t : Turn σ) (links : List (Link σ))
    (G : World σ → Prop) : Prop :=
  ∃ init last chunks, v.follow t links = init ++ [last] ∧ Pages uids init last chunks ∧
    (last.next? ≠ none → init.length = links.length) ∧ (last.next? = none → G last.finish)

lemma Followed.imp {G' : World σ → Prop} (h : Followed v uids t links G)
    (hG : ∀ w, G w → G' w) : Followed v uids t links G' := by
  obtain ⟨init, last, chunks, hfollow, hpages, hstop, hgone⟩ := h
  exact ⟨init, last, chunks, hfollow, hpages, hstop, fun hnone => hG _ (hgone hnone)⟩

lemma Pages.single {k : Nat} (hk : 1 ≤ k) (ha : t.Attempts (uids.take k))
    (hend : t.next? = none ↔ uids.length ≤ k) : Pages uids [] t [uids.take k] where
  attempts := .cons ha .nil
  consecutive := by
    rw [List.flatten_singleton]
    exact List.take_prefix k uids
  filled chunk hchunk hempty := by
    rw [List.mem_singleton.1 hchunk, List.take_eq_nil_iff] at hempty
    exact ⟨hempty.resolve_left (by omega), rfl⟩
  more _ h := by cases h
  complete := by
    rw [Turn.tellsMore_iff, not_not, hend, List.flatten_singleton, List.take_eq_self_iff]

lemma Pages.cons {k : Nat} (hk : 1 ≤ k) (hlt : k < uids.length) (ha : t.Attempts (uids.take k))
    (hmore : t.TellsMore) {init : List (Turn σ)} {last : Turn σ} {chunks : List (List Int)}
    (h : Pages (uids.drop k) init last chunks) :
    Pages uids (t :: init) last (uids.take k :: chunks) where
  attempts := .cons ha h.attempts
  consecutive := by
    rw [List.flatten_cons]
    have hprefix := (List.prefix_append_right_inj (uids.take k)).2 h.consecutive
    rwa [List.take_append_drop] at hprefix
  filled chunk hchunk hempty := by
    rcases List.mem_cons.1 hchunk with rfl | hchunk
    · rw [List.take_eq_nil_iff] at hempty
      rcases hempty with hzero | rfl
      · omega
      · exact absurd hlt (Nat.not_lt_zero k)
    · have hnone := List.drop_eq_nil_iff.1 (h.filled chunk hchunk hempty).1
      omega
  more t' ht' := by
    rcases List.mem_cons.1 ht' with rfl | ht'
    · exact hmore
    · exact h.more t' ht'
  complete := by
    rw [h.complete, List.flatten_cons, ← List.append_right_inj (uids.take k),
      List.take_append_drop]

lemma Pages.length_le_flatten {init : List (Turn σ)} {last : Turn σ} {chunks : List (List Int)}
    (h : Pages uids init last chunks) (hfilled : ∀ chunk ∈ chunks, chunk ≠ []) :
    init.length + 1 ≤ chunks.flatten.length := by
  have hcalls : init.length + 1 = chunks.length := by simpa using h.attempts.length_eq
  rw [hcalls, List.length_flatten, ← List.length_map List.length]
  refine List.length_le_sum_of_one_le _ fun n hn => ?_
  obtain ⟨chunk, hchunk, rfl⟩ := List.mem_map.1 hn
  exact List.length_pos_iff.2 (hfilled chunk hchunk)

lemma Pages.length_le {init : List (Turn σ)} {last : Turn σ} {chunks : List (List Int)}
    (h : Pages uids init last chunks) : init.length + 1 ≤ max 1 uids.length := by
  -- Only the one page of an empty list is empty.
  by_cases hfilled : ∀ chunk ∈ chunks, chunk ≠ []
  · exact (h.length_le_flatten hfilled).trans (h.consecutive.length_le.trans (le_max_right _ _))
  · obtain ⟨chunk, hchunk, hempty⟩ : ∃ chunk ∈ chunks, chunk = [] := by simpa using hfilled
    rw [(h.filled chunk hchunk hempty).2]
    exact le_max_left _ _

/-- While messages are left, there were fewer calls than messages. -/
lemma Pages.length_lt {init : List (Turn σ)} {last : Turn σ} {chunks : List (List Int)}
    (h : Pages uids init last chunks) (hnext : last.next? ≠ none) :
    init.length + 1 < uids.length := by
  have hrest : chunks.flatten ≠ uids := fun heq =>
    h.complete.2 heq (Turn.tellsMore_iff.2 hnext)
  have hfilled : ∀ chunk ∈ chunks, chunk ≠ [] := by
    intro chunk hchunk hempty
    obtain ⟨rfl, -⟩ := h.filled chunk hchunk hempty
    exact hrest (List.prefix_nil.1 h.consecutive)
  have hlength := h.consecutive.length_le.lt_of_ne fun heq => hrest (h.consecutive.eq_of_length heq)
  exact (h.length_le_flatten hfilled).trans_lt hlength

/-- A chain whose first call ends it, or leaves the rest to the chain of those after it. -/
lemma followed_of_step {k : Nat} (hk : 1 ≤ k) (ha : t.Attempts (uids.take k))
    (hend : uids.length ≤ k → t.next? = none ∧ G t.finish)
    (hmore : k < uids.length → ∃ token, t.next? = some token ∧ ∀ l ls, links = l :: ls →
      Followed v (uids.drop k) (v.turn l.today (v.after t.finish l.before)
        (l.request.resuming token)) ls G) : Followed v uids t links G := by
  rcases Nat.lt_or_ge k uids.length with hlt | hge
  · obtain ⟨token, hnext, hrest⟩ := hmore hlt
    have hne : t.next? ≠ none := by simp [hnext]
    cases links with
    | nil =>
      refine ⟨[], t, _, rfl, .single hk ha ?_, fun _ => rfl, fun h => absurd h hne⟩
      exact ⟨fun h => absurd h hne, fun h => absurd h (not_le.2 hlt)⟩
    | cons l ls =>
      obtain ⟨init, last, chunks, hfollow, hpages, hlength, hgone⟩ := hrest l ls rfl
      have hmore := Turn.tellsMore_iff.2 hne
      refine ⟨t :: init, last, _, ?_, hpages.cons hk hlt ha hmore, fun h => ?_, hgone⟩
      · rw [Service.follow, hnext]
        exact congrArg (t :: ·) hfollow
      · rw [List.length_cons, List.length_cons, hlength h]
  · obtain ⟨hnone, hgone⟩ := hend hge
    refine ⟨[], t, _, ?_, .single hk ha ⟨fun _ => hge, fun _ => hnone⟩, fun h => absurd hnone h,
      fun _ => hgone⟩
    cases links with
    | nil => rfl
    | cons l ls => rw [Service.follow, hnone]; rfl

lemma GoesOn.after {os : List (Occurrence σ)} (hw : GoesOn r epoch uids offset token w)
    (hos : ∀ o ∈ os, o.Spares token) : GoesOn r epoch uids offset token (v.after w os) := by
  obtain ⟨e, hreserved, he⟩ := hw
  exact ⟨e, after_reserved hos hreserved, he⟩

lemma mem_follow_self (v : Service σ) (t : Turn σ) (links : List (Link σ)) :
    t ∈ v.follow t links := by
  cases links with
  | nil => exact List.mem_cons_self
  | cons l ls =>
    rw [Service.follow]
    split <;> exact List.mem_cons_self

lemma mem_follow_of_mem {t' : Turn σ} {l : Link σ} (hnext : t.next? = some token)
    (h : t' ∈ v.follow
      (v.turn l.today (v.after t.finish l.before) (l.request.resuming token)) links) :
    t' ∈ v.follow t (l :: links) := by
  rw [Service.follow, hnext]
  exact List.mem_cons_of_mem t h

lemma followed_of_turn (hv : v.peer.Orderly) (hr : r.validate = .ok ()) (hq : r.Continues q)
    (hw : GoesOn r epoch uids offset token w) (hlt : offset < uids.length)
    (hprovided : (v.turn today w (q.resuming token)).Provided v epoch)
    (hrest : ∀ k, (v.turn today w (q.resuming token)).next? = some token →
      GoesOn r epoch uids (offset + k) token (v.turn today w (q.resuming token)).finish →
      offset + k < uids.length → ∀ l ls, links = l :: ls →
      Followed v (uids.drop (offset + k)) (v.turn l.today
        (v.after (v.turn today w (q.resuming token)).finish l.before) (l.request.resuming token)) ls
        fun w => w.cursors.find? token = none) :
    Followed v (uids.drop offset) (v.turn today w (q.resuming token)) links
      fun w => w.cursors.find? token = none := by
  obtain ⟨ha, hmore, hend⟩ := turn_resumed hv (hq.valid hr token) rfl hq.accountId hq.mailbox hw
    hlt.le hprovided rfl
  have hlimit : 1 ≤ (q.resuming token).limit.toNat := by
    have := hq.limit.1
    simp only [Search.Request.resuming]
    omega
  generalize (q.resuming token).limit.toNat = k at ha hmore hend hlimit
  rw [List.length_take, List.length_drop] at hmore hend
  refine followed_of_step hlimit ha (fun hge => hend ?_) fun hk => ?_
  · rw [List.length_drop] at hge
    omega
  · rw [List.length_drop] at hk
    rw [min_eq_left hk.le] at hmore
    obtain ⟨hnext, hgoes⟩ := hmore (by omega)
    refine ⟨token, hnext, fun l ls hls => ?_⟩
    rw [List.drop_drop]
    exact hrest k hnext hgoes (by omega) l ls hls

/-- From a call with a cursor on, a chain pages the rest of the list, and the cursor is given up
at its end. -/
lemma followed_resumed (hv : v.peer.Orderly) (hr : r.validate = .ok ())
    (hlinks : ∀ l ∈ links, r.Continues l.request)
    (hspares : ∀ l ∈ links, ∀ o ∈ l.before, o.Spares token) (hq : r.Continues q)
    (hw : GoesOn r epoch uids offset token w) (hlt : offset < uids.length)
    (hprovided : ∀ t ∈ v.follow (v.turn today w (q.resuming token)) links, t.Provided v epoch) :
    Followed v (uids.drop offset) (v.turn today w (q.resuming token)) links
      fun w => w.cursors.find? token = none := by
  -- The next call starts in another world, at another place and with a request of its own.
  induction links generalizing w offset q today with
  | nil =>
    exact followed_of_turn hv hr hq hw hlt (hprovided _ (mem_follow_self v _ _))
      fun _ _ _ _ _ _ h => by cases h
  | cons l ls ih =>
    refine followed_of_turn hv hr hq hw hlt (hprovided _ (mem_follow_self v _ _))
      fun k hnext hgoes hk l' ls' h => ?_
    obtain ⟨rfl, rfl⟩ := List.cons.inj h
    exact ih (fun l' hl' => hlinks l' (List.mem_cons_of_mem l hl'))
      (fun l' hl' => hspares l' (List.mem_cons_of_mem l hl')) (hlinks l List.mem_cons_self)
      (hgoes.after (hspares l List.mem_cons_self)) hk
      fun t ht => hprovided t (mem_follow_of_mem hnext ht)

end Chains

namespace Service

variable {σ : Type}

/-- The pages of a chain attempt the messages that its first call found, newest first, each once and
in order, with further pages told of on every page but the last. The chain ends after at most as
many calls as messages, and then nothing is held under its cursor. -/
theorem chain_pages (v : Service σ) (hv : v.peer.Orderly) (remote : σ) (clock : Nat)
    (os : List (Occurrence σ)) {today : Moment} {r : Search.Request} (hvalid : r.validate = .ok ())
    (hcursor : r.cursor = none) {links : List (Link σ)}
    (hlinks : ∀ l ∈ links, r.Continues l.request) {epoch : Int} {uids : List Int}
    (hlength : uids.length ≤ maxMatches) {t : Turn σ}
    (ht : t = v.turn today (v.after (.start remote clock) os) r)
    (hfinds : t.Finds { v with today := today } epoch uids)
    (hprovided : ∀ t' ∈ v.follow t links, t'.Provided v epoch)
    (hspares : ∀ token, t.next? = some token → ∀ l ∈ links, ∀ o ∈ l.before, o.Spares token) :
    ∃ init last chunks, v.follow t links = init ++ [last] ∧
      Pages (newestFirst uids) init last chunks ∧
      (last.next? = none → chunks.flatten.Perm uids ∧ chunks.flatten.Pairwise fun a b => b ≤ a) ∧
      init.length + 1 ≤ max 1 uids.length ∧
      (uids.length ≤ links.length + 1 → last.next? = none) ∧
      (last.next? = none → ∀ token, t.next? = some token →
        last.finish.cursors.find? token = none) := by
  have hsound := (after_kept v remote clock os).sound
  have hsort : (newestFirst uids).length = uids.length := List.length_mergeSort _
  obtain ⟨ha, hmore, hend⟩ := turn_started hv hvalid hcursor hsound hlength (ht ▸ hfinds) rfl
  rw [← ht] at ha hmore hend
  have hlimit : 1 ≤ r.limit.toNat := by
    have := (Search.Request.validate_eq_ok.1 hvalid).limit.1
    omega
  have hfollowed : Followed v (newestFirst uids) t links fun w =>
      ∀ token, t.next? = some token → w.cursors.find? token = none := by
    rw [List.length_take] at hmore hend
    refine followed_of_step hlimit ha (fun hge => ?_) fun hk => ?_
    · have hnone := hend (by omega)
      exact ⟨hnone, fun token h => by rw [hnone] at h; cases h⟩
    · rw [min_eq_left hk.le] at hmore
      obtain ⟨token, hnext, hgoes⟩ := hmore hk
      refine ⟨token, hnext, fun l ls hls => ?_⟩
      subst hls
      have hrest := followed_resumed hv hvalid
        (fun l' hl' => hlinks l' (List.mem_cons_of_mem l hl'))
        (fun l' hl' => hspares token hnext l' (List.mem_cons_of_mem l hl'))
        (hlinks l List.mem_cons_self) (hgoes.after (hspares token hnext l List.mem_cons_self)) hk
        fun t' ht' => hprovided t' (mem_follow_of_mem hnext ht')
      refine hrest.imp fun w hw token' hnext' => ?_
      obtain rfl : token = token' := Option.some.inj (hnext.symm.trans hnext')
      exact hw
  obtain ⟨init, last, chunks, hfollow, hpages, hstop, hgone⟩ := hfollowed
  refine ⟨init, last, chunks, hfollow, hpages, fun hnone => ?_, hsort ▸ hpages.length_le, ?_, hgone⟩
  · rw [hpages.complete.1 fun hmore => Turn.tellsMore_iff.1 hmore hnone]
    refine ⟨List.mergeSort_perm _ _, ?_⟩
    have hsorted : (newestFirst uids).Pairwise fun a b => decide (b ≤ a) :=
      List.pairwise_mergeSort
        (fun a b c hab hbc => by simp only [decide_eq_true_eq] at *; omega)
        (fun a b => by simp only [Bool.or_eq_true, decide_eq_true_eq]; omega) uids
    exact hsorted.imp of_decide_eq_true
  · intro hcalls
    by_contra hnext
    have hlt := hpages.length_lt hnext
    rw [hstop hnext, hsort] at hlt
    omega

lemma eq_ok_of_toOption {ε α : Type} {x : Except ε α} {a : α} (h : x.toOption = some a) :
    x = .ok a := by
  cases x with
  | error e => cases h
  | ok a' => exact congrArg _ (Option.some.inj h)

/-- What connecting and selecting come to, in terms that compute. -/
lemma selects_of_toOption {v : Service σ} {w : World σ} {r : Search.Request} {a : Account}
    {s : Session} {epoch : Int} (ha : (v.settings.account r.accountId).toOption = some a)
    (hs : (Task.runIn w (v.connect a)).1.toOption = some s)
    (hepoch : (Task.runIn (Task.runIn w (v.connect a)).2
      (s.select v.peer r.mailbox true)).1.toOption = some epoch) :
    v.Selects w r s epoch (Task.runIn (Task.runIn w (v.connect a)).2
      (s.select v.peer r.mailbox true)).2 :=
  ⟨a, _, eq_ok_of_toOption ha, Prod.ext (eq_ok_of_toOption hs) rfl,
    Prod.ext (eq_ok_of_toOption hepoch) rfl⟩

/-- The sample's service with clients that refuse no values. -/
def calm : Service Exchange :=
  { Sample.service false with peer := Exchange.peer.calmed }

def calmStart : Turn Exchange :=
  calm.turn Sample.noon (calm.after (.start ⟨[("mail", Sample.host 0)], []⟩ 0) [])
    (Sample.search 2 none)

def calmLink : Link Exchange := ⟨[.wait 100], Sample.noon, Sample.search 2 none⟩

def calmEnd : Turn Exchange :=
  calm.turn Sample.noon (calm.after calmStart.finish [.wait 100])
    ((Sample.search 2 none).resuming "cursor-1")

/-- The three messages of the sample's inbox on two pages, of three that were asked for. -/
theorem chain_pages_of_calm : ∃ init last chunks,
    calm.follow calmStart [calmLink, calmLink] = init ++ [last] ∧
      Pages (newestFirst [1, 2, 3]) init last chunks ∧ last.next? = none := by
  have hstart : calmStart.Finds calm 7 [1, 2, 3] :=
    ⟨⟨0⟩, _, _, _, selects_of_toOption (a := Sample.account) (by decide +kernel)
      (by decide +kernel) (by decide +kernel), rfl, rfl, rfl⟩
  have heval : calmStart.next? = some "cursor-1" ∧ calmEnd.next? = none ∧
      (Task.runIn calmEnd.start (calm.connect Sample.account)).1.toOption = some ⟨1⟩ ∧
      (Task.runIn (Task.runIn calmEnd.start (calm.connect Sample.account)).2
        (Session.select calm.peer ⟨1⟩ "INBOX" true)).1.toOption = some 7 ∧
      (let w := (Task.runIn (Task.runIn calmEnd.start (calm.connect Sample.account)).2
        (Session.select calm.peer ⟨1⟩ "INBOX" true)).2
      (w.cursors.find? "cursor-1").any (Cursor.Store.isLive (Instant.ofMillis w.clock))) := by
    unfold calmEnd calmStart turn search readSheet snapshot start Session.search
    simp only [newestFirst_eq_insertionSort]
    decide +kernel
  obtain ⟨hnext, hend, hconnect, hselect, hheld⟩ := heval
  have hfollow : calm.follow calmStart [calmLink, calmLink] = [calmStart, calmEnd] := by
    rw [follow, hnext]
    change calmStart :: calm.follow calmEnd [calmLink] = _
    rw [follow, hend]
  have hprovided : ∀ t ∈ calm.follow calmStart [calmLink, calmLink], t.Provided calm 7 := by
    rw [hfollow, List.forall_mem_cons, List.forall_mem_singleton]
    constructor
    · obtain ⟨s, w, _, _, hselects, -⟩ := hstart
      exact ⟨s, w, hselects, fun _ h => by cases h⟩
    · refine ⟨⟨1⟩, _, selects_of_toOption (a := Sample.account) (by decide +kernel) hconnect
        hselect, ?_⟩
      rintro _ ⟨⟩
      exact (Option.any_eq_true _ _).1 hheld
  have hlinks : ∀ l ∈ [calmLink, calmLink], (Sample.search 2 none).Continues l.request := by
    have hcontinues : (Sample.search 2 none).Continues (Sample.search 2 none) :=
      ⟨rfl, rfl, rfl, by decide, fun _ h => by cases h⟩
    simpa [calmLink] using hcontinues
  have hspares : ∀ token, calmStart.next? = some token → ∀ l ∈ [calmLink, calmLink],
      ∀ o ∈ l.before, o.Spares token := by
    intro token _ l hl o ho today tool as hcall
    obtain rfl : l = calmLink := by simpa using hl
    obtain rfl := List.mem_singleton.1 ho
    cases hcall
  obtain ⟨init, last, chunks, hinit, hpages, -, -, hstop, -⟩ := chain_pages calm
    (Peer.orderly_calmed _) _ 0 [] (by decide +kernel) rfl hlinks (by decide) rfl hstart hprovided
    hspares
  exact ⟨init, last, chunks, hinit, hpages, hstop (by decide)⟩

end Service

end Mailroom
