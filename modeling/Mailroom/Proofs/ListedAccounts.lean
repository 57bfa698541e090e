import Mailroom.Proofs.LoadedSettings
import Mailroom.Proofs.Refusals
import Mailroom.Proofs.SuggestedCalls

/-!
# The accounts that are listed

The id of an account is found in the name of a variable, and is checked whenever a call names the
account. Whatever characters are found pass the check. But only the check bounds the length, so an
account with a longer id is loaded and listed, and cannot be used: if it is the first that is
listed, even the call that is suggested with the list is refused.
-/

namespace Mailroom

open Environment

section Ids

variable {s : String}

/-- The lower case of a segment has the characters of an account id. -/
lemma isAccountIdChar_toLower {c : Char} (h : isSegmentChar c) :
    Check.isAccountIdChar c.toLower := by
  have hall : ∀ c : Char, c.toNat < 0x80 → isSegmentChar c → Check.isAccountIdChar c.toLower :=
    Text.forall_ascii (by decide)
  exact hall c (toUpper_toLower h).1 h

/-- The lower case of a segment is an account id unless it is too long. -/
lemma accountId_lower (hs : IsSegment s) : Check.accountId (Text.lower s) =
    if (Text.lower s).length ≤ 64 then .ok () else .error .accountId := by
  have hchars : (Text.lower s).toList.all Check.isAccountIdChar := by
    rw [toList_lower hs, List.all_map, List.all_eq_true]
    exact fun c hc => isAccountIdChar_toLower (hs.2 c hc)
  have hnonempty : 1 ≤ (Text.lower s).length := by
    rw [length_lower hs, Nat.one_le_iff_ne_zero]
    exact mt String.length_eq_zero_iff.1 hs.1
  simp [Check.accountId, hchars, hnonempty]

end Ids

/-- The call that an answer suggests. -/
def Service.suggestedCall {σ : Type} (v : Service σ) (a : NextAction) : Task σ Answer :=
  v.answer a.tool.name a.arguments

section Following

variable {σ : Type} {v : Service σ} {w : World σ} {e : Error} {accountId : String}

lemma refuses_of_accountId (h : Check.accountId accountId = .error e) :
    Task.Refuses w (v.run (.listMailboxes accountId)) e := by
  have hlist : ∀ w, Task.runIn w (v.listMailboxes accountId) = (.error (.refused e), w) := by
    intro w
    unfold Service.listMailboxes
    rw [h]
    rfl
  exact .of_runIn (Task.runIn_bind_error (hlist { w with logs := _ }) _)

/-- Listing the mailboxes of a configured account is refused for its id or not at all. -/
lemma refuses_listMailboxes_iff (h : ∃ account, v.settings.account accountId = .ok account) :
    Task.Refuses w (v.run (.listMailboxes accountId)) e ↔ Check.accountId accountId = .error e := by
  refine ⟨fun hrefuses => ?_, refuses_of_accountId⟩
  cases hid : Check.accountId accountId with
  | ok u =>
    have hsound : (Command.listMailboxes accountId).Sound v.settings :=
      Command.sound_listMailboxes_iff.2 ⟨hid, h⟩
    cases (sifted_run _ w.logs).2 hsound e hrefuses with
    | epoch hmessage => cases hmessage
  | error e' =>
    have hfailure := hrefuses.symm.trans (refuses_of_accountId hid)
    rw [Failure.refused.inj (Except.error.inj hfailure)]

/-- A suggested call does what its command does. -/
lemma runIn_suggestedCall (w : World σ) (a : NextAction) :
    Task.runIn w (v.suggestedCall a) = Task.runIn w (v.run a.command) := by
  unfold Service.suggestedCall Service.answer
  rw [NextAction.read_arguments]
  rfl

end Following

/-- Each listed account can be used: its id passes the check, and it is found under that. The call
that is suggested with the list is never refused. -/
structure Service.ListsUsable {σ : Type} (v : Service σ) : Prop where
  valid : ∀ a ∈ v.listAccounts.accounts, Check.accountId a.id = .ok ()
  found : ∀ a ∈ v.listAccounts.accounts,
    ∃ account, v.settings.account a.id = .ok account ∧ account.summary = a
  followed : ∀ w e, ¬ Task.Refuses w (v.suggestedCall v.listAccounts.next) e

section Listing

variable {σ : Type} {v : Service σ} {env : Environment} {a : AccountSummary}

lemma account_of_mem {st : Settings} {a : Account} (h : Settings.ofEnvironment env = .ok st)
    (ha : a ∈ st.accounts) : st.account a.id = .ok a := by
  have hnodup : (st.accounts.map (·.id)).Nodup :=
    (ascending_ids h).imp fun hlt => String.ne_of_lt hlt
  have hfind : st.accounts.find? (·.id == a.id) = some a :=
    (find?_key_eq_some hnodup).2 ⟨ha, rfl⟩
  rw [Settings.account, hfind]

variable (h : Settings.ofEnvironment env = .ok v.settings)

include h

lemma listed_found (ha : a ∈ v.listAccounts.accounts) :
    ∃ account, v.settings.account a.id = .ok account ∧ account.summary = a := by
  obtain ⟨account, hmem, rfl⟩ := List.mem_map.1 ha
  exact ⟨account, account_of_mem h hmem, rfl⟩

/-- The ids that are listed are the announced segments in lower case. -/
lemma mem_listed_iff {id : String} : (∃ a ∈ v.listAccounts.accounts, a.id = id) ↔
    ∃ s, Announces env s ∧ Text.lower s = id := by
  obtain ⟨s, hs⟩ := exists_announced h
  have hids := mem_ids_iff h id
  rw [or_iff_left fun hnone => hnone.1 s hs, List.mem_map] at hids
  rw [← hids]
  simp [Service.listAccounts, Account.summary]

/-- The id of a listed account passes its check unless it is too long. -/
lemma listed_accountId (ha : a ∈ v.listAccounts.accounts) :
    Check.accountId a.id = if a.id.length ≤ 64 then .ok () else .error .accountId := by
  obtain ⟨s, hs, hid⟩ := (mem_listed_iff h).1 ⟨a, ha, rfl⟩
  rw [← hid]
  exact accountId_lower (isSegment_of_announces hs)

lemma accountId_eq_ok_iff (ha : a ∈ v.listAccounts.accounts) :
    Check.accountId a.id = .ok () ↔ a.id.length ≤ 64 := by
  rw [listed_accountId h ha, ite_eq_left_iff, imp_iff_not nofun, not_not]

/-- There always is a listed account. The call that is suggested is about the first one, and is
refused if its id is too long, and only then. -/
lemma exists_suggested : ∃ a ∈ v.listAccounts.accounts,
    v.listAccounts.next = .listMailboxes a.id ∧
      ∀ w e, Task.Refuses w (v.suggestedCall v.listAccounts.next) e ↔
        64 < a.id.length ∧ e = .accountId := by
  obtain ⟨s, hs⟩ := exists_announced h
  obtain ⟨b, hb, -⟩ := (mem_listed_iff h).2 ⟨s, hs, rfl⟩
  obtain ⟨a, as, has⟩ := List.exists_cons_of_ne_nil (List.ne_nil_of_mem hb)
  have ha : a ∈ v.listAccounts.accounts := has ▸ List.mem_cons_self
  have hnext : v.listAccounts.next = .listMailboxes a.id := by
    change NextAction.listMailboxes ((v.listAccounts.accounts.head?.map (·.id)).getD "default") = _
    rw [has]
    rfl
  obtain ⟨account, haccount, -⟩ := listed_found h ha
  refine ⟨a, ha, hnext, fun w e => ?_⟩
  rw [Task.Refuses, runIn_suggestedCall, hnext]
  refine (refuses_listMailboxes_iff ⟨account, haccount⟩).trans ?_
  rw [listed_accountId h ha]
  split
  · next hshort => simp [hshort]
  · next hlong => simp [Nat.not_le.1 hlong, eq_comm]

/-- Of accounts that can all be used the segments are not too long. -/
lemma length_le_of_listsUsable (husable : v.ListsUsable) {s : String} (hs : Announces env s) :
    s.length ≤ 64 := by
  obtain ⟨a, ha, hid⟩ := (mem_listed_iff h).2 ⟨s, hs, rfl⟩
  have hshort := (accountId_eq_ok_iff h ha).1 (husable.valid a ha)
  rwa [hid, length_lower (isSegment_of_announces hs)] at hshort

lemma listsUsable_of_length_le (hshort : ∀ s, Announces env s → s.length ≤ 64) : v.ListsUsable := by
  have hids : ∀ a ∈ v.listAccounts.accounts, a.id.length ≤ 64 := by
    intro a ha
    obtain ⟨s, hs, hid⟩ := (mem_listed_iff h).1 ⟨a, ha, rfl⟩
    rw [← hid, length_lower (isSegment_of_announces hs)]
    exact hshort s hs
  refine ⟨fun a ha => (accountId_eq_ok_iff h ha).2 (hids a ha), fun a => listed_found h,
    fun w e hrefuses => ?_⟩
  obtain ⟨a, ha, -, hiff⟩ := exists_suggested h
  exact Nat.not_lt.2 (hids a ha) ((hiff w e).1 hrefuses).1

end Listing

namespace Sample

def longSegment : String :=
  String.ofList (List.replicate 65 'A')

lemma length_longSegment : longSegment.length = 65 :=
  String.length_ofList.trans List.length_replicate

/-- The variables of an account whose segment has 65 letters. -/
def longVariables : Environment :=
  ["HOST", "USER", "PASS"].map fun x => (ownStart longSegment ++ x, "x")

lemma announces_longVariables {s : String} : longVariables.Announces s ↔ s = longSegment := by
  have hsegments : longVariables.filterMap (fun v => segment? v.1) = [longSegment] := by
    decide +kernel
  rw [announces_iff_mem, hsegments, List.mem_singleton]

lemma exists_longVariables : ∃ st, Settings.ofEnvironment longVariables = .ok st := by
  have hset : ∀ x ∈ ["HOST", "USER", "PASS"],
      longVariables.value? (accountStart longSegment ++ x) = some "x" := by
    decide +kernel
  apply exists_ofEnvironment
  · intro s hs
    obtain rfl := announces_longVariables.1 ((mem_segments (announces_longVariables.2 rfl)).1 hs)
    refine exists_account (fun x hx => ⟨"x", ?_⟩) (by decide +kernel)
    rw [required, hset x hx]
    rfl
  · decide +kernel

end Sample

namespace Service

/-- Loaded accounts are all found under the ids that are listed, and an id passes its check unless
it has more than 64 characters. The suggested call is about a listed account, and is refused if the
id of that is longer, for its id, and not otherwise. So everything that is listed can be used
exactly if no announced segment is longer. -/
theorem listed_usable_iff {σ : Type} (v : Service σ) (env : Environment)
    (h : Settings.ofEnvironment env = .ok v.settings) :
    (∀ a ∈ v.listAccounts.accounts,
      (∃ account, v.settings.account a.id = .ok account ∧ account.summary = a) ∧
      Check.accountId a.id = if a.id.length ≤ 64 then .ok () else .error .accountId) ∧
    (∃ a ∈ v.listAccounts.accounts, v.listAccounts.next = .listMailboxes a.id ∧
      ∀ w e, Task.Refuses w (v.suggestedCall v.listAccounts.next) e ↔
        64 < a.id.length ∧ e = .accountId) ∧
    (v.ListsUsable ↔ ∀ s, Announces env s → s.length ≤ 64) :=
  ⟨fun _ ha => ⟨listed_found h ha, listed_accountId h ha⟩, exists_suggested h,
    fun husable _ => length_le_of_listsUsable h husable, listsUsable_of_length_le h⟩

theorem listed_usable_iff_of_alikeVariables : ∃ st,
    Settings.ofEnvironment Sample.alikeVariables = .ok st ∧
      ListsUsable { Sample.service false with settings := st } := by
  obtain ⟨st, hst⟩ := Sample.exists_alikeVariables
  refine ⟨st, hst, (listed_usable_iff { Sample.service false with settings := st }
    Sample.alikeVariables hst).2.2.2 fun s hs => ?_⟩
  rcases Sample.announces_alikeVariables.1 hs with rfl | rfl
  · decide
  · decide

/-- An account with a segment of 65 letters is listed and cannot be used. -/
theorem longVariables_not_usable : ¬ ∀ (v : Service Imap.Exchange) (env : Environment),
    Settings.ofEnvironment env = .ok v.settings → v.ListsUsable := by
  intro hall
  obtain ⟨st, hst⟩ := Sample.exists_longVariables
  have husable := hall { Sample.service false with settings := st } Sample.longVariables hst
  have hlong : Sample.longVariables.Announces Sample.longSegment :=
    Sample.announces_longVariables.2 rfl
  have hshort : Sample.longSegment.length ≤ 64 := length_le_of_listsUsable hst husable hlong
  rw [Sample.length_longSegment] at hshort
  omega

end Service

end Mailroom
