import Mailroom.Proofs.Footprint
import Mailroom.Proofs.SoundCommands

/-!
# The footprints of commands

Which calls each command may make, and which of them uses the cursor store. A task that works on a
message first compares the message's UIDVALIDITY with that of its mailbox; `AfterEpoch` keeps this
first step apart from the calls that follow it.
-/

namespace Mailroom

open Imap

namespace Imap.Call

/-- The flags that a call adds or removes. -/
def flags : Call → List String
  | addFlags _ fs | removeFlags _ fs => fs
  | _ => []

/-- A call about a message that stores no other flags than some given ones. -/
def Concerns (uid : Int) (fs : List String) (c : Call) : Prop :=
  c.uid? = some uid ∧ c.flags ⊆ fs

lemma concerns_quiet {uid : Int} {fs : List String} {c : Call} (h : c.uid? = some uid)
    (hflags : c.flags = []) : c.Concerns uid fs :=
  ⟨h, hflags ▸ List.nil_subset fs⟩

end Imap.Call

/-- A task that compares the epochs of a message and its mailbox and then stays within a
footprint. -/
def AfterEpoch {σ α : Type} (F : Footprint) (v : Service σ) (s : Session) (id : MessageId)
    (readOnly : Bool) (t : Task σ α) : Prop :=
  ∃ rest : Task σ α, t = (do v.ensureEpoch s id readOnly; rest) ∧ F.Covers v.peer rest

namespace Footprint

variable {σ α : Type} {F : Footprint} {v : Service σ} {s : Session} {id : MessageId}

lemma covers_ensureEpoch {readOnly : Bool} (h : F.calls s.client (.select id.mailbox readOnly)) :
    F.Covers v.peer (v.ensureEpoch s id readOnly) := by
  refine .bind (covers_select h) fun epoch => ?_
  split
  · exact .refuse _
  · exact .pure _

lemma covers_afterEpoch {readOnly : Bool} {t : Task σ α} (ht : AfterEpoch F v s id readOnly t)
    (h : F.calls s.client (.select id.mailbox readOnly)) : F.Covers v.peer t := by
  obtain ⟨rest, rfl, hrest⟩ := ht
  exact .bind (covers_ensureEpoch h) fun _ => hrest

lemma covers_account (id : String) : F.Covers v.peer (v.account id) := .check _

section Reading

lemma covers_probe (hn : F.calls s.client .noop) (hc : F.calls s.client .capabilities) :
    F.Covers v.peer (v.probe s) := by
  refine .bind (.attempt (covers_issue hn)) fun _ => ?_
  refine .bind (.attempt (covers_capabilities hc)) fun r => ?_
  cases r with
  | ok _ => exact .pure _
  | error _ => exact .pure _

lemma covers_verifyAccount (h : ∀ k c, c.isFrame → F.calls k c) (hn : ∀ k, F.calls k .noop)
    (hc : ∀ k, F.calls k .capabilities) (a : String) : F.Covers v.peer (v.verifyAccount a) := by
  refine .bind (.check _) fun _ => .bind (covers_account a) fun account => .bind .now fun _ => ?_
  refine .bind (.attempt (covers_connect h _ _)) fun r => ?_
  cases r with
  | error _ => exact .bind (.logIssues _ _ _ _ _) fun _ => .bind .now fun _ => .pure _
  | ok s =>
    refine .bind (covers_within (h _) (covers_probe (hn _) (hc _))) fun found => ?_
    exact .bind (.logIssues _ _ _ _ _) fun _ => .bind .now fun _ => .pure _

lemma covers_listMailboxes (h : ∀ k c, c.isFrame → F.calls k c)
    (hl : ∀ k, F.calls k .listFolders) (a : String) : F.Covers v.peer (v.listMailboxes a) := by
  refine .bind (.check _) fun _ => .bind (covers_account a) fun account => ?_
  refine .bind (.attempt (covers_connect h _ _)) fun r => ?_
  cases r with
  | error _ => exact .bind (.logIssues _ _ _ _ _) fun _ => .pure _
  | ok s =>
    refine .bind (covers_within (h _) (.attempt (covers_mailboxes (hl _)))) fun found => ?_
    exact .bind (.logIssues _ _ _ _ _) fun _ => .pure _

lemma covers_unreadMessage (a : String) (i : Issue) :
    F.Covers v.peer (Service.unreadMessage a id i : Task σ Answer.Message) :=
  .bind (.logIssues _ _ _ _ _) fun _ => .pure _

lemma fetchMessage_afterEpoch (hf : F.calls s.client (.fetch id.uid [.source]))
    (hg : F.calls s.client (.fetch id.uid [.flags])) (a : String) (o : Mail.DigestOptions) :
    AfterEpoch F v s id true (v.fetchMessage s a id o) := by
  refine ⟨_, rfl, .bind (.attempt (covers_fetchSource hf)) fun r => ?_⟩
  cases r with
  | error e => exact .bind (covers_unreadMessage _ _) fun _ => .pure _
  | ok source =>
    refine .bind (.attempt (.ofExcept _)) fun r => ?_
    cases r with
    | error e => exact .bind (covers_unreadMessage _ _) fun _ => .pure _
    | ok d => exact .bind (.attempt (covers_fetchFlags hg)) fun _ => .pure _

lemma covers_readMessage (h : ∀ k c, c.isFrame → F.calls k c)
    (hs : ∀ k b, F.calls k (.select b true)) (hf : ∀ k n, F.calls k (.fetch n [.source]))
    (hg : ∀ k n, F.calls k (.fetch n [.flags])) (a m : String) (o : ReadOptions) :
    F.Covers v.peer (v.readMessage a m o) := by
  refine .bind (.check _) fun _ => .bind (.ofExcept _) fun id => ?_
  refine .bind (covers_account a) fun _ => ?_
  refine .bind (.attempt (covers_connect h _ _)) fun r => ?_
  cases r with
  | error _ => exact covers_unreadMessage _ _
  | ok s =>
    have hbody := fun o => covers_afterEpoch (v := v)
      (fetchMessage_afterEpoch (hf s.client id.uid) (hg _ _) a o) (hs _ _)
    refine .bind (covers_within (h _) (hbody _)) fun found => ?_
    cases found with
    | error _ => exact .pure _
    | ok shown => exact .bind (.logIssues _ _ _ _ _) fun _ => .pure _

lemma covers_unreadSource (a stage : String) (e : Error) (n : Option Int) :
    F.Covers v.peer (Service.unreadSource a id stage e n : Task σ Answer.Source) :=
  .bind (.logIssues _ _ _ _ _) fun _ => .pure _

lemma fetchSource_afterEpoch (hf : F.calls s.client (.fetch id.uid [.source])) (a : String) :
    AfterEpoch F v s id true (v.fetchSource s a id) := by
  refine ⟨_, rfl, .bind (.attempt (covers_fetchSource hf)) fun r => ?_⟩
  cases r with
  | error e => exact .bind (covers_unreadSource _ _ _ _) fun _ => .pure _
  | ok source => exact .pure _

lemma covers_readSource (h : ∀ k c, c.isFrame → F.calls k c)
    (hs : ∀ k b, F.calls k (.select b true)) (hf : ∀ k n, F.calls k (.fetch n [.source]))
    (a m : String) (n : Int) : F.Covers v.peer (v.readSource a m n) := by
  refine .bind (.check _) fun _ => .bind (.ofExcept _) fun id => ?_
  refine .bind (covers_account a) fun _ => ?_
  refine .bind (.attempt (covers_connect h _ _)) fun r => ?_
  cases r with
  | error _ => exact covers_unreadSource _ _ _ _
  | ok s =>
    have hbody :=
      covers_afterEpoch (v := v) (fetchSource_afterEpoch (hf s.client id.uid) a) (hs _ _)
    refine .bind (covers_within (h _) hbody) fun found => ?_
    cases found with
    | error _ => exact .pure _
    | ok source =>
      dsimp only
      split
      · exact .escape _
      · split
        · exact .refuse _
        · exact .pure _

end Reading

end Footprint

/-- The uses that a search makes of the cursor store: it looks up, gives up or moves on the cursor
that it was given, or makes one. -/
inductive SearchChange (p : Cursor.Policy) (r : Search.Request) :
    (Instant → Cursor.Store → Cursor.Store) → Prop where
  | lookUp (token : String) (h : r.cursor = some token) :
    SearchChange p r fun now store => (store.get now token).2
  | giveUp (token : String) (h : r.cursor = some token) :
    SearchChange p r fun now store => store.delete now token
  | moveOn (token : String) (h : r.cursor = some token) (offset : Int) :
    SearchChange p r fun now store => store.advance p now token offset
  | create (e : Cursor.Entry) : SearchChange p r fun now store => (store.create p now e).2

section Yields

variable {σ α : Type} {v : Service σ} {s : Session}

lemma within_yields {p : Peer σ} {t : Task σ α} {R : α → Prop} (ht : Task.Yields t R) :
    Task.Yields (s.within p t) R :=
  .bind_of ht.observe fun _ hr => .bind fun _ => .ofExcept hr

lemma resume_yields (r : Search.Request) (epoch : Int) (token : String) :
    Task.Yields (Service.resume r epoch token : Task σ Snapshot)
      fun s => s.cursor = some token := by
  refine .bind fun found => ?_
  cases found with
  | none => exact .refuse _
  | some e =>
    dsimp only
    split
    · exact .refuse _
    · split
      · exact .bind fun _ => .refuse _
      · exact .pure rfl

lemma start_yields (r : Search.Request) :
    Task.Yields (v.start s r) fun n => n.cursor = none ∧ n.offset = 0 := by
  refine .bind fun criteria => .bind fun uids => ?_
  split
  · exact .refuse _
  · exact .pure ⟨rfl, rfl⟩

lemma snapshot_yields (r : Search.Request) (epoch : Int) :
    Task.Yields (v.snapshot s r epoch) fun x => ∀ n, x = .ok n → n.cursor = r.cursor := by
  unfold Service.snapshot
  cases hc : r.cursor with
  | some token =>
    refine .bind_of (resume_yields r epoch token) fun n hn => .pure fun n' h => ?_
    cases h
    exact hn
  | none =>
    refine .bind_of (start_yields r).attempt fun x hx => ?_
    cases x with
    | ok n =>
      refine .pure fun n' h => ?_
      cases h
      exact (hx n rfl).1
    | error e =>
      dsimp only
      split
      · exact .refuse _
      · exact .bind fun _ => .pure fun n h => by cases h

lemma readSheet_yields (r : Search.Request) :
    Task.Yields (v.readSheet s r) fun x => ∀ b, x = .ok b → b.snapshot.cursor = r.cursor := by
  refine .bind fun x => ?_
  cases x with
  | error e => exact .bind fun _ => .pure fun b h => by cases h
  | ok epoch =>
    refine .bind_of (snapshot_yields r epoch) fun x hx => ?_
    cases x with
    | error e => exact .pure fun b h => by cases h
    | ok n =>
      dsimp only
      split
      · exact .refuse _
      · refine .bind fun rows => .pure fun b h => ?_
        cases h
        exact hx n rfl

end Yields

namespace Footprint

variable {σ α : Type} {F : Footprint} {v : Service σ} {s : Session}

section Searching

variable {r : Search.Request}

lemma covers_failedSearch (stage : String) (e : Error) :
    F.Covers v.peer (Service.failedSearch r stage e : Task σ Answer.Page) :=
  .bind (.logIssues _ _ _ _ _) fun _ => .pure _

lemma covers_resume {token : String} (hlookUp : F.changes fun now store => (store.get now token).2)
    (hgiveUp : F.changes fun now store => store.delete now token) (epoch : Int) :
    F.Covers v.peer (Service.resume r epoch token : Task σ Snapshot) := by
  refine .bind (.cursors hlookUp) fun found => ?_
  cases found with
  | none => exact .refuse _
  | some e =>
    dsimp only
    split
    · exact .refuse _
    · split
      · exact .bind (.cursors hgiveUp) fun _ => .refuse _
      · exact .pure _

lemma covers_start (h : ∀ a b, F.calls s.client (.search a b)) :
    F.Covers v.peer (v.start s r) := by
  refine .bind (.ofExcept _) fun criteria => .bind (covers_search (h _ _)) fun uids => ?_
  split
  · exact .refuse _
  · exact .pure _

lemma covers_snapshot (hs : ∀ a b, F.calls s.client (.search a b))
    (hlookUp : ∀ token, r.cursor = some token → F.changes fun now store => (store.get now token).2)
    (hgiveUp : ∀ token, r.cursor = some token → F.changes fun now store => store.delete now token)
    (epoch : Int) : F.Covers v.peer (v.snapshot s r epoch) := by
  unfold Service.snapshot
  split
  · next token hc =>
    exact .bind (covers_resume (hlookUp token hc) (hgiveUp token hc) epoch) fun _ => .pure _
  · refine .bind (.attempt (covers_start hs)) fun x => ?_
    cases x with
    | ok n => exact .pure _
    | error e =>
      dsimp only
      split
      · exact .refuse _
      · exact .bind (covers_failedSearch _ _) fun _ => .pure _

lemma covers_fetchRow (hf : ∀ n, F.calls s.client (.fetch n [.flags, .headerFields]))
    (epoch : Int) (n : Snapshot) (uid : Int) :
    F.Covers v.peer (v.fetchRow s r epoch n uid) := by
  refine .bind (.attempt (covers_fetchHeader (hf uid))) fun x => ?_
  cases x with
  | error e => exact .pure _
  | ok found =>
    dsimp only
    split
    · exact .pure _
    · exact .pure _

lemma covers_readSheet (hb : F.calls s.client (.select r.mailbox true))
    (hs : ∀ a b, F.calls s.client (.search a b))
    (hf : ∀ n, F.calls s.client (.fetch n [.flags, .headerFields]))
    (h : ∀ f, SearchChange v.cursorPolicy r f → F.changes f) :
    F.Covers v.peer (v.readSheet s r) := by
  refine .bind (.attempt (covers_select hb)) fun x => ?_
  cases x with
  | error e => exact .bind (covers_failedSearch _ _) fun _ => .pure _
  | ok epoch =>
    refine .bind (covers_snapshot hs (fun token hc => h _ (.lookUp token hc))
      (fun token hc => h _ (.giveUp token hc)) epoch) fun x => ?_
    cases x with
    | error page => exact .pure _
    | ok n =>
      dsimp only
      split
      · exact .refuse _
      · exact .bind (.mapM (covers_fetchRow hf epoch n) _) fun _ => .pure _

lemma covers_advance {b : Service.Sheet} (hc : b.snapshot.cursor = r.cursor)
    (h : ∀ f, SearchChange v.cursorPolicy r f → F.changes f) :
    F.Covers v.peer (v.advance r b) := by
  unfold Service.advance
  split
  · split
    · next token ht => exact .cursors (h _ (.giveUp token (hc ▸ ht)))
    · exact .pure _
  · split
    · next token ht => exact .cursors (h _ (.moveOn token (hc ▸ ht) _))
    · exact .cursors (h _ (.create _))

lemma covers_page {b : Service.Sheet} (hc : b.snapshot.cursor = r.cursor)
    (h : ∀ f, SearchChange v.cursorPolicy r f → F.changes f) : F.Covers v.peer (v.page r b) :=
  .bind (covers_advance hc h) fun _ => .bind (.logIssues _ _ _ _ _) fun _ =>
    .bind (.log _ _ _) fun _ => .pure _

lemma covers_searchPage (ho : ∀ k c, c.isFrame → F.calls k c)
    (hb : ∀ k, F.calls k (.select r.mailbox true)) (hs : ∀ k a b, F.calls k (.search a b))
    (hf : ∀ k n, F.calls k (.fetch n [.flags, .headerFields]))
    (h : ∀ f, SearchChange v.cursorPolicy r f → F.changes f) : F.Covers v.peer (v.search r) := by
  refine .bind (.check _) fun _ => .bind (covers_account _) fun account => ?_
  refine .bind (.attempt (covers_connect ho _ _)) fun x => ?_
  cases x with
  | error e => exact covers_failedSearch _ _
  | ok s =>
    refine .bind_of (covers_within (ho _) (covers_readSheet (hb _) (hs _) (hf _) h))
      (within_yields (readSheet_yields r)) fun x hx => ?_
    cases x with
    | error page => exact .pure _
    | ok b => exact covers_page (hx b rfl) h

end Searching

section Changing

variable {id : MessageId}

lemma covers_stepUnless (nothing : Bool) {stage : String} {uid : Int} {l : Ledger}
    {t : Task σ Unit} (ht : F.Covers v.peer t) :
    F.Covers v.peer (Service.stepUnless nothing stage uid l t) := by
  cases nothing with
  | true => exact .pure _
  | false => exact .bind (covers_step ht) fun _ => .pure _

lemma storeFlags_afterEpoch {add remove : List String}
    (h : ∀ c, c.Concerns id.uid (add ++ remove) → F.calls s.client c) (a : String) :
    AfterEpoch F v s id false (v.storeFlags s a id add remove) := by
  have hadd := h (.addFlags id.uid add) ⟨rfl, List.subset_append_left add remove⟩
  have hremove := h (.removeFlags id.uid remove) ⟨rfl, List.subset_append_right add remove⟩
  refine ⟨_, rfl, .bind (covers_stepUnless _ (covers_issue hadd)) fun _ => ?_⟩
  refine .bind (covers_stepUnless _ (covers_issue hremove)) fun _ => ?_
  refine .bind (.attempt (covers_fetchFlags (h _ (Call.concerns_quiet rfl rfl)))) fun r => ?_
  cases r with
  | ok _ => exact .pure _
  | error _ => exact .pure _

lemma copyWithin_afterEpoch {mailbox : String} (h : F.calls s.client (.copy id.uid mailbox))
    (l : Ledger) : AfterEpoch F v s id false (v.copyWithin s id mailbox l) :=
  ⟨_, rfl, .bind (covers_step (covers_issue h)) fun _ => .pure _⟩

lemma fetchForCopy_afterEpoch (h : F.calls s.client (.fetch id.uid [.source])) (l : Ledger) :
    AfterEpoch F v s id true (v.fetchForCopy s id l) :=
  ⟨_, rfl, covers_step (covers_fetchSource h)⟩

lemma covers_removeSteps {uid : Int}
    (h : ∀ c, c.Concerns uid [deletedFlag] → F.calls s.client c) (l : Ledger) :
    F.Covers v.peer (v.removeSteps s uid l) := by
  have hmark := h (.addFlags uid [deletedFlag]) ⟨rfl, List.Subset.refl _⟩
  refine .bind (covers_step (covers_issue hmark)) fun x => ?_
  rcases x with ⟨_ | _, l⟩
  · exact .pure _
  · refine .bind (covers_step (covers_issue (h _ ?_))) fun _ => .pure _
    exact Call.concerns_quiet rfl rfl

lemma covers_moveBy {uid : Int} (h : ∀ c, c.Concerns uid [deletedFlag] → F.calls s.client c)
    (strategy : MoveStrategy) (mailbox : String) (l : Ledger) :
    F.Covers v.peer (v.moveBy strategy s uid mailbox l) := by
  cases strategy with
  | native =>
    refine .bind (covers_step (covers_issue (h _ ?_))) fun _ => .pure _
    exact Call.concerns_quiet rfl rfl
  | copyDeleteExpunge =>
    refine .bind (covers_step (covers_issue (h _ (Call.concerns_quiet rfl rfl)))) fun x => ?_
    rcases x with ⟨_ | _, l⟩
    · exact .pure _
    · exact covers_removeSteps h l

lemma moveWithin_afterEpoch (h : ∀ c, c.Concerns id.uid [deletedFlag] → F.calls s.client c)
    (hc : F.calls s.client .capabilities) (mailbox : String) (l : Ledger) :
    AfterEpoch F v s id false (v.moveWithin s id mailbox l) := by
  refine ⟨_, rfl, .bind (covers_step (covers_capabilities hc)) fun x => ?_⟩
  rcases x with ⟨_ | _, l⟩
  · exact .pure _
  · exact .bind (covers_moveBy h _ _ _) fun _ => .pure _

lemma flag_deletedFlag : ∀ f ∈ [deletedFlag], Check.flag f = .ok () := by
  decide

lemma deleteWithin_afterEpoch (h : ∀ c, c.Concerns id.uid [deletedFlag] → F.calls s.client c)
    (l : Ledger) : AfterEpoch F v s id false (v.deleteWithin s id l) :=
  ⟨_, rfl, covers_removeSteps h l⟩

variable (ho : ∀ k c, c.isFrame → F.calls k c)

include ho

lemma covers_appendTo (ha : ∀ k b o, F.calls k (.append b o)) (d : Account) (mailbox : String)
    (source : Value) (l : Ledger) : F.Covers v.peer (v.appendTo d mailbox source l) := by
  refine .bind (covers_step (covers_connect ho _ _)) fun x => ?_
  rcases x with ⟨_ | s, l⟩
  · exact .pure _
  · refine covers_within (ho _) ?_
    split
    · exact .escape _
    · exact .bind (covers_step (covers_issue (ha _ _ _))) fun _ => .pure _

variable (hs : ∀ k b, F.calls k (.select b false))
variable (h : ∀ k c n fs, c.Concerns n fs → (∀ f ∈ fs, Check.flag f = .ok ()) → F.calls k c)

include hs h

lemma covers_updateFlags (a m : String) (add remove : Option (List String)) :
    F.Covers v.peer (v.updateFlags a m add remove) := by
  refine .bind (.check _) fun _ => .bind_of (.check _)
    (.check fun _ hchecked => Command.checkFlags_eq_ok.1 hchecked) ?_
  rintro _ ⟨rfl, hflags, -⟩
  refine .bind (.ofExcept _) fun id => ?_
  refine .bind (covers_account _) fun account => ?_
  refine .bind (.attempt (covers_connect ho _ _)) fun x => ?_
  cases x with
  | error e => exact .bind (.logIssues _ _ _ _ _) fun _ => .pure _
  | ok s =>
    have hbody := covers_afterEpoch (v := v)
      (storeFlags_afterEpoch (fun c hc => h s.client c id.uid _ hc hflags) a) (hs _ _)
    exact .bind (covers_within (ho _) hbody) fun _ => .bind (.logIssues _ _ _ _ _) fun _ =>
      .bind (.log _ _ _) fun _ => .pure _

lemma covers_copyMessage (hr : ∀ k b, F.calls k (.select b true))
    (ha : ∀ k b o, F.calls k (.append b o)) (a m mailbox : String) (d : Option String) :
    F.Covers v.peer (v.copyMessage a m mailbox d) := by
  have hsteps : ∀ source destination same id,
      F.Covers v.peer (v.copySteps source destination same id mailbox) := by
    intro source destination same id
    refine .bind (covers_step (covers_connect ho _ _)) fun x => ?_
    rcases x with ⟨_ | s, l⟩
    · exact .pure _
    · have hid := fun c (hc : c.Concerns id.uid []) =>
        h s.client c id.uid [] hc (List.forall_mem_nil _)
      cases same with
      | true =>
        have hcopy := hid (.copy id.uid mailbox) (Call.concerns_quiet rfl rfl)
        exact covers_within (ho _) (covers_afterEpoch (copyWithin_afterEpoch hcopy _) (hs _ _))
      | false =>
        have hfetch := hid (.fetch id.uid [.source]) (Call.concerns_quiet rfl rfl)
        refine .bind (covers_within (ho _)
          (covers_afterEpoch (fetchForCopy_afterEpoch hfetch _) (hr _ _))) fun x => ?_
        rcases x with ⟨_ | octets, l⟩
        · exact .pure _
        · exact covers_appendTo ho ha _ _ _ _
  refine .bind (.check _) fun _ => .bind (.ofExcept _) fun id => .bind (.check _) fun _ => ?_
  refine .bind (.check _) fun _ => ?_
  refine .bind (covers_account _) fun _ => .bind (covers_account _) fun _ => ?_
  exact .bind (hsteps _ _ _ _) fun _ => .bind (.logIssues _ _ _ _ _) fun _ =>
    .bind (.log _ _ _) fun _ => .pure _

lemma covers_moveMessage (hc : ∀ k, F.calls k .capabilities) (a m mailbox : String) :
    F.Covers v.peer (v.moveMessage a m mailbox) := by
  have hsteps : ∀ account id, F.Covers v.peer (v.moveSteps account id mailbox) := by
    intro account id
    refine .bind (covers_step (covers_connect ho _ _)) fun x => ?_
    rcases x with ⟨_ | s, l⟩
    · exact .pure _
    · exact covers_within (ho _) (covers_afterEpoch (moveWithin_afterEpoch
        (fun c hc => h s.client c id.uid _ hc flag_deletedFlag) (hc _) _ _) (hs _ _))
  refine .bind (.check _) fun _ => .bind (.ofExcept _) fun id => .bind (.check _) fun _ => ?_
  refine .bind (covers_account _) fun _ => .bind (hsteps _ _) fun _ => ?_
  exact .bind (.logIssues _ _ _ _ _) fun _ => .pure _

lemma covers_deleteMessage (a m : String) (confirmed : Bool) :
    F.Covers v.peer (v.deleteMessage a m confirmed) := by
  have hsteps : ∀ account id, F.Covers v.peer (v.deleteSteps account id) := by
    intro account id
    refine .bind (covers_step (covers_connect ho _ _)) fun x => ?_
    rcases x with ⟨_ | s, l⟩
    · exact .pure _
    · exact covers_within (ho _) (covers_afterEpoch (deleteWithin_afterEpoch
        (fun c hc => h s.client c id.uid _ hc flag_deletedFlag) _) (hs _ _))
  refine .bind (.check _) fun _ => .refuseIf (.bind (.ofExcept _) fun id => ?_)
  refine .bind (covers_account _) fun _ => .bind (hsteps _ _) fun _ => ?_
  exact .bind (.logIssues _ _ _ _ _) fun _ => .bind (.log _ _ _) fun _ => .pure _

end Changing

end Footprint

/-- The calls that a command may make besides those that open and close its sessions. -/
def Command.mayCall : Command → Call → Prop
  | .listAccounts, _ => False
  | .verifyAccount _, c => c = .noop ∨ c = .capabilities
  | .listMailboxes _, c => c = .listFolders
  | .search r, c => c = .select r.mailbox true ∨ (∃ a b, c = .search a b) ∨
      ∃ n, c = .fetch n [.flags, .headerFields]
  | .readMessage .., c => (∃ b, c = .select b true) ∨
      ∃ n, c = .fetch n [.source] ∨ c = .fetch n [.flags]
  | .readSource .., c => (∃ b, c = .select b true) ∨ ∃ n, c = .fetch n [.source]
  | .updateFlags .., c => (∃ b, c = .select b false) ∨ c.uid?.isSome
  | .copy .., c => (∃ b readOnly, c = .select b readOnly) ∨ c.uid?.isSome ∨
      ∃ b o, c = .append b o
  | .move .., c => (∃ b, c = .select b false) ∨ c = .capabilities ∨ c.uid?.isSome
  | .delete .., c => (∃ b, c = .select b false) ∨ c.uid?.isSome

/-- What a command may call, and how it may use the cursor store: only a search does. -/
def Command.footprint {σ : Type} (v : Service σ) (c : Command) : Footprint where
  calls _ call := call.isFrame ∨ c.mayCall call
  changes f := ∃ r, c = .search r ∧ SearchChange v.cursorPolicy r f

namespace Footprint

variable {σ : Type} (v : Service σ)

/-- Each command stays within its footprint. -/
theorem covers_run (c : Command) : (c.footprint v).Covers v.peer (v.run c) := by
  have ho : ∀ (k : ClientId) (call : Call), call.isFrame → (c.footprint v).calls k call :=
    fun _ _ h => .inl h
  have huid : ∀ {call : Call} {n : Int} {fs : List String}, call.Concerns n fs → call.uid?.isSome :=
    fun h => by rw [h.1]; rfl
  cases c with
  | listAccounts => exact .pure _
  | verifyAccount a =>
    refine .bind (.log _ _ _) fun _ => .bind ?_ fun _ => .pure _
    exact covers_verifyAccount ho (fun _ => .inr (.inl rfl)) (fun _ => .inr (.inr rfl)) a
  | listMailboxes a =>
    refine .bind (.log _ _ _) fun _ => .bind ?_ fun _ => .pure _
    exact covers_listMailboxes ho (fun _ => .inr rfl) a
  | search r =>
    refine .bind (.log _ _ _) fun _ => .bind ?_ fun _ => .pure _
    exact covers_searchPage ho (fun _ => .inr (.inl rfl))
      (fun _ a b => .inr (.inr (.inl ⟨a, b, rfl⟩)))
      (fun _ n => .inr (.inr (.inr ⟨n, rfl⟩))) fun f h => ⟨r, rfl, h⟩
  | readMessage a m o =>
    refine .bind (.log _ _ _) fun _ => .bind ?_ fun _ => .pure _
    exact covers_readMessage ho (fun _ b => .inr (.inl ⟨b, rfl⟩))
      (fun _ n => .inr (.inr ⟨n, .inl rfl⟩)) (fun _ n => .inr (.inr ⟨n, .inr rfl⟩)) a m o
  | readSource a m n =>
    refine .bind (.log _ _ _) fun _ => .bind ?_ fun _ => .pure _
    exact covers_readSource ho (fun _ b => .inr (.inl ⟨b, rfl⟩))
      (fun _ n => .inr (.inr ⟨n, rfl⟩)) a m n
  | updateFlags a m add remove =>
    refine .bind ?_ fun _ => .pure _
    exact covers_updateFlags ho (fun _ b => .inr (.inl ⟨b, rfl⟩))
      (fun _ _ _ _ h _ => .inr (.inr (huid h))) a m add remove
  | copy a m b d =>
    refine .bind ?_ fun _ => .pure _
    exact covers_copyMessage ho (fun _ b => .inr (.inl ⟨b, _, rfl⟩))
      (fun _ _ _ _ h _ => .inr (.inr (.inl (huid h)))) (fun _ b => .inr (.inl ⟨b, _, rfl⟩))
      (fun _ b o => .inr (.inr (.inr ⟨b, o, rfl⟩))) a m b d
  | move a m b =>
    refine .bind ?_ fun _ => .pure _
    exact covers_moveMessage ho (fun _ b => .inr (.inl ⟨b, rfl⟩))
      (fun _ _ _ _ h _ => .inr (.inr (.inr (huid h)))) (fun _ => .inr (.inr (.inl rfl))) a m b
  | delete a m confirmed =>
    refine .bind ?_ fun _ => .pure _
    exact covers_deleteMessage ho (fun _ b => .inr (.inl ⟨b, rfl⟩))
      (fun _ _ _ _ h _ => .inr (.inr (huid h))) a m confirmed

/-- A tool call stays within what its command needs, and without a command it needs nothing. -/
theorem covers_call {F : Footprint} (tool : String) (as : Arguments)
    (h : ∀ c, as.command tool = .ok c → F.Covers v.peer (v.run c)) :
    F.Covers v.peer (v.call tool as) := by
  have hanswer : F.Covers v.peer (v.answer tool as) :=
    .bind_of (.check _) (.check fun _ hc => hc) h
  refine .bind .now fun _ => .bind (.attempt hanswer) fun x => ?_
  cases x with
  | ok a => exact .bind .now fun _ => .pure _
  | error e => exact .bind (.log _ _ _) fun _ => .pure _

end Footprint

end Mailroom
