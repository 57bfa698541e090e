import Mailroom.Proofs.Serving
import Mailroom.Proofs.SoundCommands

/-!
# Reading keeps mail as it is

No run of the tools that read makes a call that could change mail, and neither does any run while
changes are switched off. A tool that changes mail is then refused before a client is made.
-/

namespace Mailroom

open Imap

namespace Imap

/-- A call that leaves all mail as it is. A selection is harmless if it is for reading only, and
fetching is if everything fetched is the flags or a section that is looked at without being marked
as seen. -/
def Call.Harmless : Call → Prop
  | .connect .. | .login .. | .noop | .capabilities | .listFolders | .search .. | .logout
  | .shutdown => True
  | .select _ readOnly => readOnly = true
  | .fetch _ items => ∀ i ∈ items, i.text = "FLAGS" ∨ "BODY.PEEK[".toList <+: i.text.toList
  | .addFlags .. | .removeFlags .. | .copy .. | .move .. | .expunge _ | .append .. => False

def Event.Harmless : Event → Prop
  | .called _ c _ => c.Harmless
  | .timeoutSet .. => True

lemma FetchItem.text_quiet (i : FetchItem) :
    i.text = "FLAGS" ∨ "BODY.PEEK[".toList <+: i.text.toList := by
  cases i with
  | flags => exact .inl rfl
  | headerFields => exact .inr (by decide)
  | source => exact .inr (by decide)

lemma Call.harmless_of_isFrame {c : Call} (h : c.isFrame) : c.Harmless := by
  cases c <;> simp_all [Call.isFrame, Call.Harmless]

end Imap

def Tool.reading : List Tool :=
  [listAccounts, verifyAccount, listMailboxes, searchMessages, getMessage, getMessageRaw]

def Tool.writing : List Tool :=
  [updateMessageFlags, copyMessage, moveMessage, deleteMessage]

lemma harmless_of_mayCall {c : Command} (hc : c.reads) {call : Call} (h : c.mayCall call) :
    call.Harmless := by
  cases c with
  | listAccounts => exact h.elim
  | verifyAccount a => obtain rfl | rfl := h <;> trivial
  | listMailboxes a =>
    obtain rfl := h
    trivial
  | search r =>
    obtain rfl | ⟨a, b, rfl⟩ | ⟨n, rfl⟩ := h
    · rfl
    · trivial
    · exact fun i _ => i.text_quiet
  | readMessage a m o =>
    obtain ⟨b, rfl⟩ | ⟨n, rfl | rfl⟩ := h
    · rfl
    · exact fun i _ => i.text_quiet
    · exact fun i _ => i.text_quiet
  | readSource a m n =>
    obtain ⟨b, rfl⟩ | ⟨n, rfl⟩ := h
    · rfl
    · exact fun i _ => i.text_quiet
  | updateFlags a m add remove => cases hc
  | copy a m b d => cases hc
  | move a m b => cases hc
  | delete a m confirmed => cases hc

lemma eq_of_ite_eq_ok {p : Prop} [Decidable p] {a c : Command} {rest : Except Error Command}
    (h : (if p then .ok a else rest) = .ok c) : (p ∧ a = c) ∨ rest = .ok c := by
  by_cases hp : p
  · rw [if_pos hp] at h
    exact .inl ⟨hp, Except.ok.inj h⟩
  · rw [if_neg hp] at h
    exact .inr h

/-- A tool reads exactly if its commands do. -/
lemma reads_of_command {tool : String} {as : Arguments} {c : Command}
    (h : as.command tool = .ok c) :
    (c.reads ∧ tool ∈ Tool.reading.map Tool.name) ∨
      (c.reads = false ∧ tool ∈ Tool.writing.map Tool.name) := by
  have hread : ∀ t ∈ Tool.reading, tool = t.name → tool ∈ Tool.reading.map Tool.name :=
    fun t ht hn => List.mem_map.2 ⟨t, ht, hn.symm⟩
  have hwrite : ∀ t ∈ Tool.writing, tool = t.name → tool ∈ Tool.writing.map Tool.name :=
    fun t ht hn => List.mem_map.2 ⟨t, ht, hn.symm⟩
  obtain ⟨as', -, h⟩ := bind_eq_ok.1 h
  unfold Arguments.checkedCommand at h
  rcases eq_of_ite_eq_ok h with ⟨ht, rfl⟩ | h
  · exact .inl ⟨rfl, hread .listAccounts (by simp [Tool.reading]) ht⟩
  rcases eq_of_ite_eq_ok h with ⟨ht, rfl⟩ | h
  · exact .inl ⟨rfl, hread .verifyAccount (by simp [Tool.reading]) ht⟩
  rcases eq_of_ite_eq_ok h with ⟨ht, rfl⟩ | h
  · exact .inl ⟨rfl, hread .listMailboxes (by simp [Tool.reading]) ht⟩
  rcases eq_of_ite_eq_ok h with ⟨ht, rfl⟩ | h
  · exact .inl ⟨rfl, hread .searchMessages (by simp [Tool.reading]) ht⟩
  rcases eq_of_ite_eq_ok h with ⟨ht, rfl⟩ | h
  · exact .inl ⟨rfl, hread .getMessage (by simp [Tool.reading]) ht⟩
  rcases eq_of_ite_eq_ok h with ⟨ht, rfl⟩ | h
  · exact .inl ⟨rfl, hread .getMessageRaw (by simp [Tool.reading]) ht⟩
  rcases eq_of_ite_eq_ok h with ⟨ht, rfl⟩ | h
  · exact .inr ⟨rfl, hwrite .updateMessageFlags (by simp [Tool.writing]) ht⟩
  rcases eq_of_ite_eq_ok h with ⟨ht, rfl⟩ | h
  · exact .inr ⟨rfl, hwrite .copyMessage (by simp [Tool.writing]) ht⟩
  rcases eq_of_ite_eq_ok h with ⟨ht, rfl⟩ | h
  · exact .inr ⟨rfl, hwrite .moveMessage (by simp [Tool.writing]) ht⟩
  rcases eq_of_ite_eq_ok h with ⟨ht, rfl⟩ | h
  · exact .inr ⟨rfl, hwrite .deleteMessage (by simp [Tool.writing]) ht⟩
  · cases h

lemma not_writing_of_reading {tool : String} (h : tool ∈ Tool.reading.map Tool.name) :
    tool ∉ Tool.writing.map Tool.name := by
  have hall : ∀ t ∈ Tool.reading.map Tool.name, t ∉ Tool.writing.map Tool.name := by decide
  exact hall tool h

namespace Service

variable {σ : Type} {v : Service σ}

/-- While changes are switched off, a command that changes mail ends where it begins. -/
lemma runIn_run_disabled (hv : v.settings.writeEnabled = false) {c : Command}
    (hc : c.reads = false) (w : World σ) :
    Task.runIn w (v.run c) = (.error (.refused .writesDisabled), w) := by
  have hcheck : ∀ a, Task.runIn w (Task.check (v.checkChange a)) =
      (.error (.refused .writesDisabled), w) := by
    intro a
    simp only [Task.runIn_check, checkChange, Check.writesEnabled, hv]
    rfl
  cases c with
  | updateFlags a m add remove =>
    exact Task.runIn_bind_error (Task.runIn_bind_error (hcheck a) _) _
  | copy a m b d => exact Task.runIn_bind_error (Task.runIn_bind_error (hcheck a) _) _
  | move a m b => exact Task.runIn_bind_error (Task.runIn_bind_error (hcheck a) _) _
  | delete a m confirmed => exact Task.runIn_bind_error (Task.runIn_bind_error (hcheck a) _) _
  | _ => cases hc

/-- A call whose command is refused, or that has none, leaves no trace of a client. -/
lemma call_refused {tool : String} {as : Arguments} {w : World σ}
    (h : ∀ c, as.command tool = .ok c → ∃ e, Task.runIn w (v.run c) = (.error (.refused e), w)) :
    (Task.runIn w (v.call tool as)).2.trace = w.trace ∧
      (Task.runIn w (v.call tool as)).2.clients = w.clients := by
  have hanswer : ∃ e, Task.runIn w (v.answer tool as) = (.error (.refused e), w) := by
    cases hc : as.command tool with
    | error e => exact ⟨e, Task.runIn_bind_error (by rw [Task.runIn_check, hc]; rfl) _⟩
    | ok c =>
      obtain ⟨e, he⟩ := h c hc
      exact ⟨e, (Task.runIn_check_bind_ok hc _).trans he⟩
  obtain ⟨e, he⟩ := hanswer
  have hattempt : Task.runIn w (Task.attempt (v.answer tool as)) = (.ok (.error e), w) := by
    rw [Task.runIn_attempt, he]
  have hcall : Task.runIn w (v.call tool as) = (.ok e.toJson, { w with logs := w.logs ++
      [⟨.error, .server, s!"hard mcp error tool={tool} code={e.code.name} message={e.text}"⟩] }) :=
    (Task.runIn_bind_ok (Task.runIn_now w) _).trans ((Task.runIn_bind_ok hattempt _).trans rfl)
  rw [hcall]
  exact ⟨rfl, rfl⟩

/-- A tool that changes mail makes no client while changes are switched off. -/
lemma undergo_writing_disabled (hv : v.settings.writeEnabled = false) {tool : String}
    (ht : tool ∈ Tool.writing.map Tool.name) (today : Moment) (as : Arguments) (w : World σ) :
    (v.undergo w (.call today tool as)).trace = w.trace ∧
      (v.undergo w (.call today tool as)).clients = w.clients := by
  refine call_refused fun c hc => ?_
  rcases reads_of_command hc with ⟨-, hr⟩ | ⟨hr, -⟩
  · exact absurd ht (not_writing_of_reading hr)
  · exact ⟨_, runIn_run_disabled (v := { v with today := today }) hv hr w⟩

/-- The invariant of a run that keeps mail as it is. -/
abbrev Quiet (past : List Event) : World σ → Prop :=
  Footprint.Since past fun new => ∀ e ∈ new, e.Harmless

lemma undergo_quiet {past : List Event} {w : World σ} {o : Occurrence σ}
    (ho : ∀ today tool as, o = .call today tool as →
      tool ∈ Tool.reading.map Tool.name ∨ v.settings.writeEnabled = false)
    (hw : Quiet past w) : Quiet past (v.undergo w o) := by
  cases o with
  | wait n => exact hw
  | drift f => exact hw
  | call today tool as =>
    by_cases hquiet : v.settings.writeEnabled = false ∧ tool ∈ Tool.writing.map Tool.name
    · obtain ⟨new, hnew, hg⟩ := hw
      exact ⟨new, ((undergo_writing_disabled hquiet.1 hquiet.2 today as w).1).trans hnew, hg⟩
    · -- What is left are commands that read, and their calls are harmless.
      have hreads : ∀ c, as.command tool = .ok c → c.reads := by
        intro c hc
        rcases reads_of_command hc with ⟨hr, -⟩ | ⟨-, hw⟩
        · exact hr
        · rcases ho today tool as rfl with hread | hoff
          · exact absurd hw (not_writing_of_reading hread)
          · exact absurd ⟨hoff, hw⟩ hquiet
      refine undergo_call_keeps (F := ⟨fun _ c => c.Harmless, fun _ => True⟩)
        (Footprint.stable_since ?_ ?_) ?_ hw
      · intro new k c o hc hnew e he
        rcases List.mem_append.1 he with he | he
        · exact hnew e he
        · rw [List.mem_singleton.1 he]
          exact hc
      · intro new k n hnew e he
        rcases List.mem_append.1 he with he | he
        · exact hnew e he
        · rw [List.mem_singleton.1 he]
          trivial
      · intro c hc
        refine (Footprint.covers_run { v with today := today } c).mono ?_ fun _ _ => trivial
        rintro k call (hframe | hmay)
        · exact Call.harmless_of_isFrame hframe
        · exact harmless_of_mayCall (hreads c hc) hmay

/-- Whatever is called in a run of which each call is to a tool that reads or is made while changes
are switched off, only harmless calls go out to mail clients. While changes are switched off, a
tool that changes mail makes no client. -/
theorem reading_leaves_mail (v : Service σ) (w : World σ) (os : List (Occurrence σ))
    (h : ∀ today tool as, .call today tool as ∈ os →
      tool ∈ Tool.reading.map Tool.name ∨ v.settings.writeEnabled = false) :
    (∃ new, (v.after w os).trace = w.trace ++ new ∧ ∀ e ∈ new, e.Harmless) ∧
      (v.settings.writeEnabled = false → ∀ tool ∈ Tool.writing.map Tool.name, ∀ today as w',
        (v.undergo w' (.call today tool as)).trace = w'.trace ∧
          (v.undergo w' (.call today tool as)).clients = w'.clients) := by
  constructor
  · refine after_keeps (I := Quiet w.trace) (fun o ho w' hw' => ?_) ⟨[], by simp, by simp⟩
    exact undergo_quiet (fun today tool as hc => h today tool as (hc ▸ ho)) hw'
  · exact fun hv tool ht today as w' => undergo_writing_disabled hv ht today as w'

/-- A search, a message that is opened, and a deletion that is refused. -/
def readingRun : List (Occurrence Exchange) :=
  [.call Sample.noon "imap_search_messages"
      [("account_id", .string "a"), ("mailbox", .string "INBOX")],
    .wait 1000,
    .call Sample.noon "imap_get_message"
      [("account_id", .string "a"), ("message_id", .string "imap:a:INBOX:7:2")],
    .call Sample.noon "imap_delete_message"
      [("account_id", .string "a"), ("message_id", .string "imap:a:INBOX:7:2"),
        ("confirm", .bool true)]]

theorem reading_leaves_mail_of_run :
    (∀ today tool as, .call today tool as ∈ readingRun →
      tool ∈ Tool.reading.map Tool.name ∨ (Sample.service false).settings.writeEnabled = false) ∧
    (∃ new, ((Sample.service false).after (Sample.world 0) readingRun).trace =
      (Sample.world 0).trace ++ new ∧ ∀ e ∈ new, e.Harmless) ∧
    (((Sample.service false).undergo (Sample.world 0)
      (.call Sample.noon "imap_move_message" [])).trace = (Sample.world 0).trace) := by
  have h : ∀ today tool as, .call today tool as ∈ readingRun →
      tool ∈ Tool.reading.map Tool.name ∨ (Sample.service false).settings.writeEnabled = false :=
    fun _ _ _ _ => .inr rfl
  obtain ⟨hquiet, hoff⟩ := reading_leaves_mail (Sample.service false) (Sample.world 0) readingRun h
  exact ⟨h, hquiet, (hoff rfl _ (by decide) _ _ _).1⟩

end Service

end Mailroom
