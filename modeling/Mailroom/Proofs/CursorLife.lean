import Mailroom.Proofs.ClockRounding
import Mailroom.Proofs.CursorStore
import Mailroom.Proofs.Serving

/-!
# Cursors in a serving program

Whatever tools are called, the cursor store stays sound and no entry outlives one that is renewed
now. A call that is not given a token leaves the entry under it as it is, or without it.
-/

namespace Mailroom

section Changes

variable {p : Cursor.Policy} {r : Search.Request} {now : Instant} {store : Cursor.Store}
variable {f : Instant → Cursor.Store → Cursor.Store}

lemma SearchChange.sound (h : SearchChange p r f) (hs : store.Sound) : (f now store).Sound := by
  cases h with
  | lookUp token => exact hs.purge now
  | giveUp token => exact hs.delete now token
  | moveOn token _ offset => exact hs.advance p now token offset
  | create e => exact hs.create p now e

/-- Deadlines are those of before, or that of an entry renewed now. -/
lemma SearchChange.expiresAt_of_mem (h : SearchChange p r f) {x : String × Cursor.Entry}
    (hx : x ∈ (f now store).entries) :
    (∃ y ∈ store.entries, y.2.expiresAt = x.2.expiresAt) ∨ x.2.expiresAt = p.deadline now := by
  cases h with
  | lookUp token => exact .inl ⟨x, (Cursor.Store.mem_purge.1 hx).1, rfl⟩
  | giveUp token =>
    exact .inl ⟨x, (Cursor.Store.mem_purge.1 (List.mem_of_mem_filter hx)).1, rfl⟩
  | moveOn token _ offset => exact Cursor.Store.expiresAt_of_mem_advance hx
  | create e => exact Cursor.Store.expiresAt_of_mem_create hx

lemma SearchChange.issued (h : SearchChange p r f) {token : String} (ht : store.Issued token) :
    (f now store).Issued token := by
  obtain ⟨k, hk, rfl⟩ := ht
  cases h with
  | create e => exact ⟨k, Nat.le_succ_of_le hk, rfl⟩
  | _ => exact ⟨k, hk, rfl⟩

/-- What is held under a token that a search was not given was held before. -/
lemma SearchChange.find?_of_ne (h : SearchChange p r f) (hs : store.Sound) {token : String}
    {e : Cursor.Entry} (ht : store.Issued token) (hne : r.cursor ≠ some token)
    (hfind : (f now store).find? token = some e) : store.find? token = some e := by
  cases h with
  | lookUp token' => exact (hs.find?_purge.1 hfind).1
  | giveUp token' => exact hs.find?_of_delete hfind
  | moveOn token' hcursor offset =>
    exact hs.find?_of_advance (fun heq => hne (heq ▸ hcursor)) hfind
  | create e => exact hs.find?_of_create ht hfind

end Changes

section Worlds

variable {σ : Type} {v : Service σ} {w : World σ}

/-- A sound store, none of whose entries outlives one that is renewed now. -/
structure Kept (p : Cursor.Policy) (w : World σ) : Prop where
  sound : w.cursors.Sound
  due : ∀ x ∈ w.cursors.entries, x.2.expiresAt ≤ p.deadline (Instant.ofMillis w.clock)

lemma deadline_mono {m n : Nat} (h : m ≤ n) :
    v.cursorPolicy.deadline (Instant.ofMillis m) ≤ v.cursorPolicy.deadline (Instant.ofMillis n) :=
  Instant.after_mono _ (Instant.ofMillis_mono h)

lemma Kept.later (h : Kept v.cursorPolicy w) {w' : World σ} (hcursors : w'.cursors = w.cursors)
    (hclock : w.clock ≤ w'.clock) : Kept v.cursorPolicy w' where
  sound := hcursors ▸ h.sound
  due x hx := (h.due x (hcursors ▸ hx)).trans (deadline_mono hclock)

def anySearch (p : Cursor.Policy) : Footprint :=
  ⟨fun _ _ => True, fun f => ∃ r, SearchChange p r f⟩

lemma kept_stable : (anySearch v.cursorPolicy).Stable v.peer (Kept v.cursorPolicy) where
  asked _ _ _ _ hw := hw.later rfl (Nat.le_add_right _ _)
  timeoutSet _ _ _ hw := hw.later rfl le_rfl
  changed w f hf hw := by
    -- The clock does not go back, so that a deadline renewed now is as late as any.
    obtain ⟨r, hf⟩ := hf
    refine ⟨hf.sound hw.sound, fun x hx => ?_⟩
    rcases hf.expiresAt_of_mem hx with ⟨y, hy, hxy⟩ | hnew
    · exact hxy ▸ hw.due y hy
    · exact hnew.le
  booked _ _ _ _ _ hw := hw.later rfl le_rfl

lemma undergo_kept (o : Occurrence σ) (hw : Kept v.cursorPolicy w) :
    Kept v.cursorPolicy (v.undergo w o) := by
  cases o with
  | wait n => exact hw.later rfl (Nat.le_add_right _ _)
  | drift f => exact hw.later rfl le_rfl
  | call today tool as =>
    refine Service.undergo_call_keeps kept_stable (fun c _ => ?_) hw
    exact (Footprint.covers_run { v with today := today } c).mono (fun _ _ _ => trivial)
      fun f ⟨r, _, hf⟩ => ⟨r, hf⟩

/-- Every world that is reached keeps its cursors soundly. -/
theorem after_kept (v : Service σ) (remote : σ) (clock : Nat) (os : List (Occurrence σ)) :
    Kept v.cursorPolicy (v.after (.start remote clock) os) :=
  Service.after_keeps (fun o _ _ hw => undergo_kept o hw)
    ⟨Cursor.Store.sound_empty, fun _ hx => by cases hx⟩

/-- Under a token that was issued there is one entry or none. -/
structure Reserved (token : String) (e : Cursor.Entry) (w : World σ) : Prop where
  sound : w.cursors.Sound
  issued : w.cursors.Issued token
  only : ∀ e', w.cursors.find? token = some e' → e' = e

/-- A token is not given to any search that is called. -/
def Occurrence.Spares (token : String) (o : Occurrence σ) : Prop :=
  ∀ today tool as, o = .call today tool as →
    ∀ q, as.command tool = .ok (.search q) → q.cursor ≠ some token

lemma undergo_reserved {token : String} {e : Cursor.Entry} {o : Occurrence σ}
    (ho : o.Spares token) (hw : Reserved token e w) : Reserved token e (v.undergo w o) := by
  cases o with
  | wait n => exact ⟨hw.sound, hw.issued, hw.only⟩
  | drift f => exact ⟨hw.sound, hw.issued, hw.only⟩
  | call today tool as =>
    let F : Footprint := ⟨fun _ _ => True, fun f => ∃ r, SearchChange v.cursorPolicy r f ∧
      r.cursor ≠ some token⟩
    have hstable : F.Stable v.peer (Reserved token e) := {
      asked := fun _ _ _ _ hw => ⟨hw.sound, hw.issued, hw.only⟩
      timeoutSet := fun _ _ _ hw => ⟨hw.sound, hw.issued, hw.only⟩
      changed := fun w f ⟨r, hf, hne⟩ hw => ⟨hf.sound hw.sound, hf.issued hw.issued,
        fun e' he' => hw.only e' (hf.find?_of_ne hw.sound hw.issued hne he')⟩
      booked := fun _ _ _ _ _ hw => ⟨hw.sound, hw.issued, hw.only⟩ }
    refine Service.undergo_call_keeps hstable (fun c hc => ?_) hw
    refine (Footprint.covers_run { v with today := today } c).mono (fun _ _ _ => trivial) ?_
    rintro f ⟨r, rfl, hf⟩
    exact ⟨r, hf, ho today tool as rfl r hc⟩

lemma after_reserved {token : String} {e : Cursor.Entry} {os : List (Occurrence σ)}
    (hos : ∀ o ∈ os, o.Spares token) (hw : Reserved token e w) :
    Reserved token e (v.after w os) :=
  Service.after_keeps (fun o ho _ hw => undergo_reserved (hos o ho) hw) hw

lemma Reserved.advance {token : String} {e : Cursor.Entry} {w' : World σ} {p : Cursor.Policy}
    {now now' : Instant} {offset : Int} (hw : Reserved token e w)
    (h : w'.cursors = (w.cursors.purge now).advance p now' token offset) :
    Reserved token { e with offset := offset, expiresAt := p.deadline now' } w' := by
  have hpurged := hw.sound.purge now
  constructor
  · rw [h]
    exact hpurged.advance p now' token offset
  · rw [h]
    exact hw.issued
  · rw [h]
    exact fun e' he' => Cursor.Store.find?_advance_only hpurged
      (fun e'' he'' => hw.only e'' (hw.sound.find?_purge.1 he'').1) he'

lemma reserved_create {e : Cursor.Entry} {w' : World σ} {p : Cursor.Policy} {now : Instant}
    {store : Cursor.Store} (hs : store.Sound) (h : w'.cursors = (store.create p now e).2) :
    Reserved (store.create p now e).1 { e with expiresAt := p.deadline now } w' := by
  constructor
  · rw [h]
    exact hs.create p now e
  · rw [h]
    exact store.issued_create p now e
  · rw [h]
    exact fun e' he' => hs.find?_create_only he'

end Worlds

end Mailroom
