import Mailroom.Proofs.CursorLife
import Mailroom.Proofs.SearchRun

/-!
# The use of a returned cursor

A search that tells of further messages returns a cursor. The cursor of a first page stands for an
entry when it is returned. The cursor of a later page does so exactly if its entry did not come due
during the call, for an entry that came due is not moved on.
-/

namespace Mailroom

open Imap

/-- The place at which a search goes on: that of the entry under its cursor, or the beginning. -/
def Search.Request.offsetIn (r : Search.Request) (store : Cursor.Store) : Int :=
  (r.cursor.bind store.find?).elim 0 (·.offset)

/-- A store holds a search that goes on at a place, under a token. -/
def HoldsRest (store : Cursor.Store) (token : String) (r : Search.Request) (offset : Int) : Prop :=
  ∃ e, store.find? token = some e ∧ e.accountId = r.accountId ∧ e.mailbox = r.mailbox ∧
    e.offset = offset

def HoldsLive (store : Cursor.Store) (token : String) (now : Instant) : Prop :=
  ∃ e, store.find? token = some e ∧ Cursor.Store.isLive now e

section Use

variable {σ : Type} {v : Service σ} {r : Search.Request} {w w' : World σ} {token : String}

lemma holdsRest_advance (hw : w.cursors.Sound) {e : Cursor.Entry}
    (hfind : w.cursors.find? token = some e) (haccount : e.accountId = r.accountId)
    (hmailbox : e.mailbox = r.mailbox) {p : Cursor.Policy} {now : Instant} {offset : Int} :
    HoldsRest (w.cursors.advance p now token offset) token r offset ↔
      HoldsLive w.cursors token now := by
  constructor
  · rintro ⟨e', he', -⟩
    by_contra hdue
    have hnone : (w.cursors.advance p now token offset).find? token = none := by
      refine hw.find?_advance_none fun e he => ?_
      by_contra hlive
      exact hdue ⟨e, he, by simpa using hlive⟩
    rw [hnone] at he'
    cases he'
  · rintro ⟨e', he', hlive⟩
    obtain rfl : e = e' := Option.some.inj (hfind.symm.trans he')
    exact ⟨_, hw.find?_advance_self hfind hlive, haccount, hmailbox, rfl⟩

/-- What a page that is followed by another leaves under its cursor: the entry of a new snapshot,
or the moved entry that the call was given. -/
lemma search_left (hw : Kept v.cursorPolicy w) (hcapacity : 0 < v.settings.cursorCapacity)
    {page : Answer.Page} {c : String} (h : Task.runIn w (v.search r) = (.ok page, w'))
    (hnext : page.nextCursor = some c) :
    (r.cursor = none ∧ ∃ e, w'.cursors.find? c = some e ∧ e.accountId = r.accountId ∧
      e.mailbox = r.mailbox ∧ e.offset = page.attempted ∧
      e.expiresAt = v.cursorPolicy.deadline (Instant.ofMillis w'.clock)) ∨
    (r.cursor = some c ∧ ∃ e, w.cursors.find? c = some e ∧ e.accountId = r.accountId ∧
      e.mailbox = r.mailbox ∧
      w'.cursors = w.cursors.advance v.cursorPolicy (Instant.ofMillis w'.clock) c
        (e.offset + page.attempted)) := by
  obtain ⟨hvalid, s, epoch, w₂, n, w₃, hselects, hsnapshot, hrange⟩ :=
    snapshot_of_search h (by simp [hnext])
  obtain ⟨hcursors₂, hclock₂⟩ := hselects.resting
  rcases search_of_snapshot hvalid hselects hsnapshot hrange with
    ⟨f, hf, -⟩ | ⟨rows, w₄, -, ⟨hcursors₄, hclock₄⟩, hrun⟩
  · rw [h] at hf
    cases hf
  rw [h] at hrun
  by_cases hlast : n.uids.length ≤ (⟨epoch, n, rows⟩ : Service.Sheet).nextOffset
  · obtain ⟨page', w'', hpage, -, hnone, -⟩ := runIn_page_last (v := v) (r := r) (w := w₄) hlast
    cases hrun.trans hpage
    rw [hnone] at hnext
    cases hnext
  have hmore := not_le.1 hlast
  cases hcursor : r.cursor with
  | none =>
    refine .inl ⟨rfl, ?_⟩
    obtain ⟨⟨hn, hoffset⟩, hcursors₃, hclock₃⟩ := snapshot_started hcursor hsnapshot
    obtain ⟨page', w'', hpage, hshows, hclock, hstore⟩ :=
      runIn_page_started (v := v) (r := r) (w := w₄) hmore hn
    cases hrun.trans hpage
    have hcursors : w₄.cursors = w.cursors := hcursors₄.trans (hcursors₃.trans hcursors₂)
    -- No deadline is later than the new one, so that others are evicted before it.
    have hlatest : ∀ y ∈ w₄.cursors.entries,
        y.2.expiresAt ≤ v.cursorPolicy.deadline (Instant.ofMillis w₄.clock) := fun y hy =>
      (hw.due y (hcursors ▸ hy)).trans
        (Instant.after_mono _ (hclock₂.trans (hclock₃.trans hclock₄)))
    obtain ⟨hc, hstore'⟩ := Prod.mk.inj hstore
    obtain rfl : c = _ := Option.some.inj (hnext.symm.trans hc)
    rw [hstore', hclock]
    refine ⟨_, (hcursors ▸ hw.sound).find?_create_self hcapacity hlatest, rfl, rfl, ?_, rfl⟩
    simp [entryFor, Service.Sheet.nextOffset, hoffset, hshows.attempted]
  | some token =>
    obtain ⟨e, hget, haccount, hmailbox, -, rfl, rfl⟩ :=
      (snapshot_resumed_iff hcursor).1 hsnapshot
    obtain ⟨page', w'', hpage, hshows, hnext', hclock, hstore⟩ :=
      runIn_page_resumed (v := v) (r := r) (w := w₄) hmore rfl
    cases hrun.trans hpage
    obtain rfl : token = c := Option.some.inj (hnext'.symm.trans hnext)
    rw [hcursors₂] at hget
    refine .inr ⟨rfl, e, (hw.sound.get_eq_some.1 hget).1, haccount, hmailbox, ?_⟩
    -- The store was purged when the cursor was looked up, which the purge at the end comprises.
    rw [hstore, hcursors₄, hclock, hshows.attempted, hcursors₂]
    exact Cursor.Store.advance_purge hclock₄ _ _

end Use

namespace Service

variable {σ : Type}

/-- When a search returns a cursor, the store holds the rest of the search under it exactly if the
cursor is that of a first page, or the entry that the call was given has not come due meanwhile. An
entry that is held is then live, on clocks of less than `2 ^ 62` milliseconds. -/
theorem returned_cursor_held_iff (v : Service σ) (remote : σ) (clock : Nat)
    (os : List (Occurrence σ)) (hcapacity : 1 ≤ v.settings.cursorCapacity)
    (httl : 1 ≤ v.settings.cursorTtl) {r : Search.Request} {page : Answer.Page} {c : String}
    {w w' : World σ} (hw : w = v.after (.start remote clock) os)
    (h : Task.runIn w (v.search r) = (.ok page, w')) (hnext : page.nextCursor = some c) :
    (HoldsRest w'.cursors c r (r.offsetIn w.cursors + page.attempted) ↔
      r.cursor = none ∨ HoldsLive w.cursors c (Instant.ofMillis w'.clock)) ∧
    (HoldsRest w'.cursors c r (r.offsetIn w.cursors + page.attempted) → w'.clock < 2 ^ 62 →
      HoldsLive w'.cursors c (Instant.ofMillis w'.clock)) := by
  have hkept : Kept v.cursorPolicy w := hw ▸ after_kept v remote clock os
  rcases search_left hkept hcapacity h hnext with
    ⟨hcursor, e, hfind, haccount, hmailbox, hoffset, hexpires⟩ |
    ⟨hcursor, e, hfind, haccount, hmailbox, hstore⟩
  · have hstart : r.offsetIn w.cursors = 0 := by simp [Search.Request.offsetIn, hcursor]
    rw [hstart, Int.zero_add]
    refine ⟨⟨fun _ => .inl hcursor, fun _ => ⟨e, hfind, haccount, hmailbox, hoffset⟩⟩,
      fun _ hclock => ⟨e, hfind, ?_⟩⟩
    exact decide_eq_true (hexpires ▸ Instant.lt_after httl hclock)
  · have hstart : r.offsetIn w.cursors = e.offset := by
      simp [Search.Request.offsetIn, hcursor, hfind]
    rw [hstart, hstore]
    have hiff : HoldsRest (w.cursors.advance v.cursorPolicy (Instant.ofMillis w'.clock) c
        (e.offset + page.attempted)) c r (e.offset + page.attempted) ↔
        HoldsLive w.cursors c (Instant.ofMillis w'.clock) :=
      holdsRest_advance hkept.sound hfind haccount hmailbox
    refine ⟨hiff.trans ⟨.inr, fun hlive => hlive.resolve_left (by simp [hcursor])⟩,
      fun hrest hclock => ?_⟩
    obtain ⟨e', he', hlive⟩ := hiff.1 hrest
    obtain rfl : e = e' := Option.some.inj (hfind.symm.trans he')
    exact ⟨_, hkept.sound.find?_advance_self hfind hlive,
      decide_eq_true (Instant.lt_after httl hclock)⟩

theorem returned_cursor_held_of_firstPage :
    1 ≤ (Sample.service false).settings.cursorCapacity ∧
    1 ≤ (Sample.service false).settings.cursorTtl ∧
    ∃ page w', Task.runIn (Sample.world 0) ((Sample.service false).search (Sample.search 1 none)) =
        (.ok page, w') ∧ page.nextCursor = some "cursor-1" ∧
      HoldsRest w'.cursors "cursor-1" (Sample.search 1 none)
        ((Sample.search 1 none).offsetIn (Sample.world 0).cursors + page.attempted) := by
  have hcursor : ((Task.runIn (Sample.world 0) ((Sample.service false).search
      (Sample.search 1 none))).1.toOption.bind (·.nextCursor)) = some "cursor-1" := by
    unfold search readSheet snapshot start Session.search
    simp only [newestFirst_eq_insertionSort]
    decide +kernel
  rcases hrun : Task.runIn (Sample.world 0)
    ((Sample.service false).search (Sample.search 1 none)) with ⟨f | page, w'⟩
  · rw [hrun] at hcursor
    cases hcursor
  · rw [hrun] at hcursor
    refine ⟨by decide, by decide, page, w', rfl, hcursor, ?_⟩
    exact (returned_cursor_held_iff (Sample.service false) _ _ [] (by decide) (by decide)
      rfl hrun hcursor).1.2 (.inl rfl)

/-- A first page of the sample's inbox, of which fetching a header takes longer than a cursor
lives. -/
def slowFirstPage : World Exchange :=
  (Sample.service false).after (Sample.world 1500) [.call Sample.noon "imap_search_messages"
    [("account_id", .string "a"), ("mailbox", .string "INBOX"), ("limit", .integer 1)]]

/-- The entry of the slow first page comes due while the second page is fetched. The call returns
the cursor, and nothing is held under it. -/
theorem returned_cursor_not_held :
    ¬ ∀ (v : Service Exchange) (remote : Exchange) (clock : Nat) (os : List (Occurrence Exchange))
      (r : Search.Request) (page : Answer.Page) (c : String) (w w' : World Exchange),
      1 ≤ v.settings.cursorCapacity → 1 ≤ v.settings.cursorTtl →
      w = v.after (.start remote clock) os → Task.runIn w (v.search r) = (.ok page, w') →
      page.nextCursor = some c →
      HoldsRest w'.cursors c r (r.offsetIn w.cursors + page.attempted) := by
  intro hclaim
  have hcursor : ((Task.runIn slowFirstPage ((Sample.service false).search
        (Sample.search 1 (some "cursor-1")))).1.toOption.bind (·.nextCursor)) = some "cursor-1" ∧
      (Task.runIn slowFirstPage ((Sample.service false).search
        (Sample.search 1 (some "cursor-1")))).2.cursors.find? "cursor-1" = none := by
    unfold slowFirstPage after
    simp only [List.foldl, undergo]
    unfold call answer run search readSheet snapshot start Session.search
    simp only [newestFirst_eq_insertionSort]
    decide +kernel
  rcases hrun : Task.runIn slowFirstPage ((Sample.service false).search
    (Sample.search 1 (some "cursor-1"))) with ⟨f | page, w'⟩
  · rw [hrun] at hcursor
    cases hcursor.1
  · rw [hrun] at hcursor
    obtain ⟨e, he, -⟩ := hclaim (Sample.service false) _ _ _ _ page "cursor-1" slowFirstPage w'
      (by decide) (by decide) rfl hrun hcursor.1
    rw [hcursor.2] at he
    cases he

end Service

end Mailroom
