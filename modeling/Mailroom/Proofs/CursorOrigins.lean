import Mailroom.Proofs.CursorFrame
import Mailroom.Proofs.OverlapStep

/-!
# Where cursors come from

Every entry of the cursor store was made by a search without a cursor that was called before and
gave the entry's token, which no other search gives. What that search asked about snippets stays
with the entry, whatever the calls ask that go on with it.
-/

namespace Mailroom

open Imap

namespace Cursor

/-- An entry was moved on or renewed, perhaps, but stands for the same search. -/
def Entry.Renews (e e' : Entry) : Prop :=
  { e with offset := e'.offset, expiresAt := e'.expiresAt } = e'

/-- An entry stands for what a search asked. -/
structure Entry.Serves (q : Search.Request) (e : Entry) : Prop where
  accountId : e.accountId = q.accountId
  mailbox : e.mailbox = q.mailbox
  includeSnippet : e.includeSnippet = q.includeSnippet
  snippetMaxChars :
    e.snippetMaxChars = q.snippetMaxChars.getD Search.defaultSnippetMaxChars

lemma Entry.Serves.renewed {q : Search.Request} {e e' : Entry} (h : e.Serves q)
    (he : e.Renews e') : e'.Serves q := by
  rw [← he]
  exact ⟨h.accountId, h.mailbox, h.includeSnippet, h.snippetMaxChars⟩

end Cursor

/-- A snapshot is with what a search asked about snippets. -/
structure Snapshot.Serves (q : Search.Request) (n : Snapshot) : Prop where
  includeSnippet : n.includeSnippet = q.includeSnippet
  snippetMaxChars : n.snippetMaxChars = q.snippetMaxChars.getD Search.defaultSnippetMaxChars

section Searches

variable {σ : Type} {v : Service σ} {r : Search.Request} {w w' : World σ} {token : String}
variable {e' : Cursor.Entry}

/-- Up to its page a search only drops entries. -/
lemma Service.Searched.drops {sheet : Option Service.Sheet} (h : v.Searched w r sheet w') :
    w.cursors.Drops w'.cursors := by
  cases h with
  | unselected _ hrest =>
    rw [hrest.1]
    exact .refl _
  | selected _ hselects hsnapshot hrest _ =>
    rw [hrest.1, ← hselects.resting.1]
    exact snapshot_drops hsnapshot

/-- A snapshot that a search takes is with what it asks about snippets. -/
lemma serves_of_snapshot {s : Session} {epoch : Int} {n : Snapshot} (hcursor : r.cursor = none)
    (h : Task.runIn w (v.snapshot s r epoch) = (.ok (.ok n), w')) : n.Serves r := by
  obtain ⟨criteria, uids, -, rfl⟩ := runIn_start_eq_ok (start_of_snapshot hcursor h)
  exact ⟨rfl, rfl⟩

lemma Service.Searched.serves {b : Service.Sheet} (h : v.Searched w r (some b) w')
    (hcursor : r.cursor = none) : b.snapshot.Serves r := by
  cases h with
  | selected _ _ hsnapshot _ hsheet =>
    obtain ⟨n, rows, rfl, -, rfl⟩ := hsheet b rfl
    exact serves_of_snapshot hcursor hsnapshot

/-- What is held after a search was held before, or stands for the search, which gave its token. -/
lemma search_held {x : Except Failure Answer.Page} (hw : w.cursors.Sound)
    (h : Task.runIn w (v.search r) = (x, w')) (hfind : w'.cursors.find? token = some e') :
    (∃ e, w.cursors.find? token = some e ∧ e.Renews e') ∨
      r.cursor = none ∧ Returns x token ∧ e'.Serves r := by
  obtain ⟨-, hnone⟩ | ⟨b, w₁, hsome, hpage⟩ := search_cases h
  · exact .inl ⟨e', hnone.drops.only hw token e' hfind, rfl⟩
  · have hw₁ : w₁.cursors.Sound := hsome.drops.sound hw
    have hcursor : b.snapshot.cursor = r.cursor := hsome.cursor_eq
    have hkept : ∀ e, w₁.cursors.find? token = some e → w.cursors.find? token = some e :=
      fun e => hsome.drops.only hw token e
    obtain ⟨-, -, hstore | ⟨token', offset, -, hstore⟩ | ⟨token', hnone, hreturns, hstore⟩⟩ :=
      page_cases hpage
    · rw [hstore] at hfind
      cases hb : b.snapshot.cursor with
      | none =>
        rw [hb] at hfind
        exact .inl ⟨e', hkept e' hfind, rfl⟩
      | some token' =>
        rw [hb] at hfind
        exact .inl ⟨e', hkept e' (hw₁.find?_of_delete hfind), rfl⟩
    · rw [hstore] at hfind
      obtain ⟨e, he, -, rfl⟩ := hw₁.find?_advance.1 hfind
      refine .inl ⟨e, hkept e he, ?_⟩
      split <;> rfl
    · rw [hcursor] at hnone
      obtain ⟨rfl, hcreated⟩ := Prod.mk.inj hstore
      rw [← hcreated] at hfind
      rcases hw₁.find?_create hfind with hold | ⟨rfl, rfl⟩
      · exact .inl ⟨e', hkept e' hold, rfl⟩
      · have hserves := hsome.serves hnone
        exact .inr ⟨hnone, hreturns, rfl, rfl, hserves.includeSnippet, hserves.snippetMaxChars⟩

/-- A search without a cursor issues the token that it gives. -/
lemma search_issues {page : Answer.Page} (h : Task.runIn w (v.search r) = (.ok page, w'))
    (hcursor : r.cursor = none) (hnext : page.nextCursor = some token) :
    ¬ w.cursors.Issued token ∧ w'.cursors.Issued token := by
  obtain ⟨hunpaged, -⟩ | ⟨b, w₁, hsome, hpage⟩ := search_cases h
  · cases hnext.symm.trans (hunpaged page rfl).2.2
  · by_cases hlast : b.snapshot.uids.length ≤ b.nextOffset
    · obtain ⟨page', w₂, hrun, -, hnone, -⟩ :=
        runIn_page_last (v := v) (r := r) (w := w₁) hlast
      cases hpage.symm.trans hrun
      cases hnext.symm.trans hnone
    · obtain ⟨page', w₂, hrun, -, -, hstore⟩ := runIn_page_started (v := v) (r := r) (w := w₁)
        (not_le.1 hlast) (hsome.cursor_eq.trans hcursor)
      cases hpage.symm.trans hrun
      let made := w₁.cursors.create v.cursorPolicy (Instant.ofMillis w₁.clock) (entryFor r b)
      have htoken : some token = some made.1 := hnext.symm.trans (congrArg Prod.fst hstore)
      have hleft : w'.cursors = made.2 := congrArg Prod.snd hstore
      rw [Option.some.inj htoken, hleft]
      refine ⟨?_, w₁.cursors.issued_create _ _ _⟩
      unfold Cursor.Store.Issued
      rw [← hsome.drops.created]
      exact w₁.cursors.not_issued_create _ _ _

end Searches

namespace Service

variable {σ : Type} {v : Service σ} {q : Search.Request} {w w' : World σ} {tool : String}
variable {as : Arguments} {token : String}

/-- In a run a search without a cursor was called and gave a token. -/
def Gave (v : Service σ) (w : World σ) (os : List (Occurrence σ)) (q : Search.Request)
    (token : String) : Prop :=
  ∃ before today tool as after page w', os = before ++ .call today tool as :: after ∧
    as.command tool = .ok (.search q) ∧ q.cursor = none ∧
    Task.runIn (v.after w before) ({ v with today := today }.answer tool as) =
      (.ok (.page page), w') ∧ page.nextCursor = some token

lemma Gave.append {os : List (Occurrence σ)} (h : v.Gave w os q token) (o : Occurrence σ) :
    v.Gave w (os ++ [o]) q token := by
  obtain ⟨before, today, tool, as, after, page, w', rfl, hrest⟩ := h
  exact ⟨before, today, tool, as, after ++ [o], page, w',
    by rw [List.append_assoc, List.cons_append], hrest⟩

/-- A call leaves the cursors as the answer leaves them that it sends. -/
lemma runIn_call_cursors (v : Service σ) (w : World σ) (tool : String) (as : Arguments) :
    (Task.runIn w (v.call tool as)).2.cursors = (Task.runIn w (v.answer tool as)).2.cursors := by
  unfold call
  rw [Task.runIn_bind_ok (Task.runIn_now w), Task.runIn_bind, Task.runIn_attempt]
  rcases Task.runIn w (v.answer tool as) with ⟨(e | e) | a, w'⟩ <;> rfl

/-- A search that is called is announced first. -/
lemma runIn_answer_search (w : World σ) (hc : as.command tool = .ok (.search q)) :
    ∃ w₁ x w', w₁.cursors = w.cursors ∧ Task.runIn w₁ (v.search q) = (x, w') ∧
      Task.runIn w (v.answer tool as) = (x.map .page, w') := by
  obtain ⟨w₁, hannounced, hcursors⟩ : ∃ w₁ : World σ, Task.runIn w (announce
      s!"Searching {q.accountId}/{q.mailbox} with limit={q.limit}") = (.ok (), w₁) ∧
        w₁.cursors = w.cursors := ⟨_, rfl, rfl⟩
  rcases hsearch : Task.runIn w₁ (v.search q) with ⟨x, w'⟩
  refine ⟨w₁, x, w', hcursors, hsearch, ?_⟩
  unfold answer
  rw [Task.runIn_check_bind_ok hc]
  unfold run
  rw [Task.runIn_bind_ok hannounced, Task.runIn_bind, hsearch]
  cases x <;> rfl

/-- What is held after an occurrence was held before, or stands for a search that it called. -/
lemma undergo_held (hw : w.cursors.Sound) (o : Occurrence σ) {e' : Cursor.Entry}
    (hfind : (v.undergo w o).cursors.find? token = some e') :
    (∃ e, w.cursors.find? token = some e ∧ e.Renews e') ∨
      ∃ today tool as q page w', o = .call today tool as ∧ as.command tool = .ok (.search q) ∧
        q.cursor = none ∧ Task.runIn w ({ v with today := today }.answer tool as) =
          (.ok (.page page), w') ∧ page.nextCursor = some token ∧ e'.Serves q := by
  cases o with
  | wait n => exact .inl ⟨e', hfind, rfl⟩
  | drift f => exact .inl ⟨e', hfind, rfl⟩
  | call today tool as =>
    by_cases hsearch : ∃ q, as.command tool = .ok (.search q)
    · obtain ⟨q, hq⟩ := hsearch
      obtain ⟨w₁, x, w', hcursors, hrun, hanswer⟩ :=
        runIn_answer_search (v := { v with today := today }) w hq
      have hleft : (v.undergo w (.call today tool as)).cursors = w'.cursors := by
        rw [undergo, runIn_call_cursors, hanswer]
      rw [hleft] at hfind
      rw [← hcursors] at hw ⊢
      rcases search_held hw hrun hfind with hold | ⟨hnone, ⟨page, rfl, hnext⟩, hserves⟩
      · exact .inl hold
      · exact .inr ⟨today, tool, as, q, page, w', rfl, hq, hnone, hanswer, hnext, hserves⟩
    · -- No other command changes the cursors.
      have hsame : Resting w.cursors (Instant.ofMillis w.clock)
          (v.undergo w (.call today tool as)) := by
        refine undergo_call_keeps resting_stable (fun c hc => ?_) (resting_refl w)
        refine (Footprint.covers_run { v with today := today } c).mono (fun _ _ _ => trivial) ?_
        rintro f ⟨r, rfl, -⟩
        exact hsearch ⟨r, hc⟩
      rw [hsame.1] at hfind
      exact .inl ⟨e', hfind, rfl⟩

/-- In every run each entry stands for a search that was called and gave its token. -/
lemma entry_given (v : Service σ) (remote : σ) (clock : Nat) (os : List (Occurrence σ))
    {e : Cursor.Entry}
    (hfind : (v.after (.start remote clock) os).cursors.find? token = some e) :
    ∃ q, v.Gave (.start remote clock) os q token ∧ e.Serves q := by
  induction os using List.reverseRecOn generalizing e with
  | nil => cases hfind
  | append_singleton os o ih =>
    have hafter : v.after (.start remote clock) (os ++ [o]) =
        v.undergo (v.after (.start remote clock) os) o := List.foldl_append
    rw [hafter] at hfind
    rcases undergo_held (after_kept v remote clock os).sound o hfind with
      ⟨e₀, hold, hrenews⟩ | ⟨today, tool, as, q, page, w', rfl, hq, hnone, hrun, hnext, hserves⟩
    · obtain ⟨q, hgave, hserves⟩ := ih hold
      exact ⟨q, hgave.append o, hserves.renewed hrenews⟩
    · exact ⟨q, ⟨os, today, tool, as, [], page, w', rfl, hq, hnone, hrun, hnext⟩, hserves⟩

lemma issued_stable :
    (anySearch v.cursorPolicy).Stable v.peer fun w => w.cursors.Issued token where
  asked _ _ _ _ hw := hw
  timeoutSet _ _ _ hw := hw
  changed _ _ hf hw := hf.elim fun _ hchange => hchange.issued hw
  booked _ _ _ _ _ hw := hw

/-- Tokens stay issued. -/
lemma after_issued {os : List (Occurrence σ)} (hw : w.cursors.Issued token) :
    (v.after w os).cursors.Issued token := by
  refine after_keeps (I := fun w => w.cursors.Issued token) (fun o _ w hw => ?_) hw
  cases o with
  | wait n => exact hw
  | drift f => exact hw
  | call today tool as =>
    refine undergo_call_keeps issued_stable (fun c _ => ?_) hw
    exact (Footprint.covers_run { v with today := today } c).mono (fun _ _ _ => trivial)
      fun f ⟨r, _, hf⟩ => ⟨r, hf⟩

lemma call_issues {today : Moment} {page : Answer.Page} (hc : as.command tool = .ok (.search q))
    (hq : q.cursor = none) (hnext : page.nextCursor = some token)
    (hrun : Task.runIn w ({ v with today := today }.answer tool as) = (.ok (.page page), w')) :
    ¬ w.cursors.Issued token ∧ (v.undergo w (.call today tool as)).cursors.Issued token := by
  obtain ⟨w₁, x, w₂, hcursors, hsearch, hanswer⟩ :=
    runIn_answer_search (v := { v with today := today }) w hc
  rw [undergo, runIn_call_cursors]
  rw [hrun] at hanswer ⊢
  obtain ⟨hx, rfl⟩ := Prod.mk.inj hanswer
  cases x with
  | error f => cases hx
  | ok page' =>
    cases hx
    rw [← hcursors]
    exact search_issues hsearch hq hnext

/-- No token is given by two searches of a run. -/
lemma Gave.unique {os : List (Occurrence σ)} {q' : Search.Request} (h : v.Gave w os q token)
    (h' : v.Gave w os q' token) : q = q' := by
  obtain ⟨before, today, tool, as, after, page, w₁, rfl, hc, hq, hrun, hnext⟩ := h
  obtain ⟨before', today', tool', as', after', page', w₁', hos, hc', hq', hrun', hnext'⟩ := h'
  obtain ⟨hnew, hissued⟩ := call_issues hc hq hnext hrun
  obtain ⟨hnew', hissued'⟩ := call_issues hc' hq' hnext' hrun'
  -- The later of two calls would issue a token that is issued already.
  rcases List.append_eq_append_iff.1 hos with ⟨mid, rfl, hmid⟩ | ⟨mid, rfl, hmid⟩
  · cases mid with
    | nil =>
      cases hmid
      exact Command.search.inj (Except.ok.inj (hc.symm.trans hc'))
    | cons o mid =>
      cases hmid
      rw [Service.after, List.foldl_append] at hnew'
      exact absurd (after_issued hissued) hnew'
  · cases mid with
    | nil =>
      cases hmid
      exact Command.search.inj (Except.ok.inj (hc.symm.trans hc'))
    | cons o mid =>
      cases hmid
      rw [Service.after, List.foldl_append] at hnew
      exact absurd (after_issued hissued') hnew

end Service

end Mailroom
