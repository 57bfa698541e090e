import Mailroom.Proofs.AccountVariables

/-!
# What settings hold

Settings that could be read from an environment mirror it: they have one account for each announced
segment, in the order of their ids, and each account and each limit is one that can be used. The
segments are sorted before they are put in lower case, and the accounts afterwards, because an
underscore comes behind the capital letters and before the small ones. None is lost on the way, for
segments can be read off their lower case. The order of the variables makes no difference.
-/

namespace Mailroom

/-- What an account needs to be used: nothing blank, and a port of 16 bits. -/
structure Account.Complete (a : Account) : Prop where
  host : Text.isBlank a.host = false
  user : Text.isBlank a.user = false
  password : Text.isBlank a.password = false
  port : a.port ≤ 65535

/-- The limits of a server: the variable of each, its usual value and its value. -/
def Settings.limits (st : Settings) : List (String × Nat × Nat) :=
  [("MAIL_IMAP_CONNECT_TIMEOUT_MS", 30000, st.connectTimeout),
    ("MAIL_IMAP_GREETING_TIMEOUT_MS", 15000, st.greetingTimeout),
    ("MAIL_IMAP_SOCKET_TIMEOUT_MS", 300000, st.socketTimeout),
    ("MAIL_IMAP_CURSOR_TTL_SECONDS", 600, st.cursorTtl),
    ("MAIL_IMAP_CURSOR_MAX_ENTRIES", 512, st.cursorCapacity)]

open Environment in
/-- Settings are what an environment says. The ids of their accounts are distinct and ascend, and
are the announced segments in lower case; each such segment has an account of its own, with what the
variables say that supply it. All accounts can be used. Each limit is the number that its variable
says, which is not negative, or the usual one. -/
structure Settings.Mirrors (env : Environment) (st : Settings) : Prop where
  ascending : (st.accounts.map (·.id)).Pairwise (· < ·)
  ids : ∀ id, id ∈ st.accounts.map (·.id) ↔
    (∃ s, Announces env s ∧ Text.lower s = id) ∨ (∀ s, ¬ Announces env s) ∧ id = "default"
  apart : ∀ s t, Announces env s → Announces env t → Text.lower s = Text.lower t → s = t
  kept : ∀ s, Announces env s →
    ∃ a, st.account (Text.lower s) = .ok a ∧ Supplies env (accountStart s) a
  complete : ∀ a ∈ st.accounts, a.Complete
  limits : ∀ x ∈ st.limits,
    (∀ v, env.value? x.1 = some v → Text.readInt? v = some (x.2.2 : Int)) ∧
      (env.value? x.1 = none → x.2.2 = x.2.1)

lemma nodup_eraseDups {α : Type} [BEq α] [LawfulBEq α] : ∀ xs : List α, xs.eraseDups.Nodup
  | [] => List.nodup_nil
  | x :: xs => by
    rw [List.eraseDups_cons, List.nodup_cons]
    exact ⟨by simp, nodup_eraseDups _⟩
termination_by xs => xs.length
decreasing_by exact Nat.lt_succ_of_le (List.length_filter_le _ _)

namespace Environment

variable {env env' : Environment} {st : Settings} {a : Account} {s t key v : String}

section Segments

/-- The segments of an environment are those that it announces, or the default one. -/
lemma mem_segments_iff : s ∈ env.segments ↔
    Announces env s ∨ (∀ t, ¬ Announces env t) ∧ s = "DEFAULT" := by
  by_cases hnone : ∀ t, ¬ Announces env t
  · have hempty : ((env.filterMap fun v => segment? v.1).mergeSort (· ≤ ·)).eraseDups = [] :=
      List.eq_nil_iff_forall_not_mem.2 fun t ht => hnone t (mem_announced.1 ht)
    rw [segments, hempty, List.mem_singleton]
    simp [hnone]
  · obtain ⟨t, ht⟩ := not_forall_not.1 hnone
    rw [mem_segments ht]
    simp [hnone]

lemma isSegment_of_mem_segments (hs : s ∈ env.segments) : IsSegment s := by
  rcases mem_segments_iff.1 hs with hs | ⟨-, rfl⟩
  · exact isSegment_of_announces hs
  · exact ⟨by decide, by simp [isSegmentChar]⟩

lemma nodup_segments (env : Environment) : env.segments.Nodup := by
  unfold segments
  split
  · exact List.nodup_singleton _
  · exact nodup_eraseDups _

end Segments

section Accounts

/-- The accounts are those of the segments. -/
lemma mem_accounts_iff (h : Settings.ofEnvironment env = .ok st) :
    a ∈ st.accounts ↔ ∃ s ∈ env.segments, env.account s = .ok a := by
  obtain ⟨accounts, haccounts, hsorted⟩ := (ofEnvironment_eq_ok_iff.1 h).1
  rw [hsorted, List.mem_mergeSort, mem_of_mapM_eq_ok haccounts]

/-- The ids of the accounts are the segments in lower case, sorted once more. -/
lemma ids_eq (h : Settings.ofEnvironment env = .ok st) : st.accounts.map (·.id) =
    (env.segments.map Text.lower).mergeSort fun x y => x ≤ y := by
  obtain ⟨accounts, haccounts, hsorted⟩ := (ofEnvironment_eq_ok_iff.1 h).1
  have hids : List.Forall₂ Eq (env.segments.map Text.lower) (accounts.map (·.id)) := by
    rw [List.forall₂_map_left_iff, List.forall₂_map_right_iff]
    exact (mapM_eq_ok.1 haccounts).imp fun s a ha => (account_eq_ok ha).1.symm
  rw [List.forall₂_eq_eq_eq] at hids
  rw [hsorted, hids]
  exact List.map_mergeSort fun _ _ _ _ => rfl

lemma ascending_ids (h : Settings.ofEnvironment env = .ok st) :
    (st.accounts.map (·.id)).Pairwise (· < ·) := by
  have hlower : (env.segments.map Text.lower).Nodup :=
    List.Nodup.map_on (fun s hs t ht => lower_inj (isSegment_of_mem_segments hs)
      (isSegment_of_mem_segments ht)) (nodup_segments env)
  have hnodup : (st.accounts.map (·.id)).Nodup := by
    rw [ids_eq h]
    exact (List.mergeSort_perm _ _).nodup_iff.2 hlower
  have hsorted : (st.accounts.map (·.id)).Pairwise (· ≤ ·) := by
    rw [ids_eq h]
    exact pairwise_sorted _
  refine (hsorted.and hnodup).imp fun ⟨hle, hne⟩ => ?_
  by_contra hlt
  exact hne (String.le_antisymm hle (String.not_lt.1 hlt))

lemma mem_ids_iff (h : Settings.ofEnvironment env = .ok st) (id : String) :
    id ∈ st.accounts.map (·.id) ↔
      (∃ s, Announces env s ∧ Text.lower s = id) ∨ (∀ s, ¬ Announces env s) ∧ id = "default" := by
  have hdefault : Text.lower "DEFAULT" = "default" := by decide
  rw [ids_eq h, List.mem_mergeSort, List.mem_map]
  simp only [mem_segments_iff]
  constructor
  · rintro ⟨s, hs | ⟨hnone, rfl⟩, rfl⟩
    · exact .inl ⟨s, hs, rfl⟩
    · exact .inr ⟨hnone, hdefault⟩
  · rintro (⟨s, hs, rfl⟩ | ⟨hnone, rfl⟩)
    · exact ⟨s, .inl hs, rfl⟩
    · exact ⟨"DEFAULT", .inr ⟨hnone, rfl⟩, hdefault⟩

lemma isBlank_of_required (h : env.required key = .ok v) : Text.isBlank v = false := by
  unfold required at h
  split at h
  · cases h
  · split at h
    · cases h
    · next hblank =>
      cases h
      simpa using hblank

lemma complete_of_account (h : env.account s = .ok a) : a.Complete := by
  obtain ⟨-, hport, hhost, huser, hpassword, -, -⟩ := account_eq_ok_iff.1 h
  exact ⟨isBlank_of_required hhost, isBlank_of_required huser, isBlank_of_required hpassword, hport⟩

lemma limits_eq_ok (h : Settings.ofEnvironment env = .ok st) :
    ∀ x ∈ st.limits, env.natural x.1 x.2.1 = .ok x.2.2 := by
  obtain ⟨-, -, hconnect, hgreeting, hsocket, httl, hcapacity⟩ := ofEnvironment_eq_ok_iff.1 h
  simp only [Settings.limits, List.forall_mem_cons]
  exact ⟨hconnect, hgreeting, hsocket, httl, hcapacity, List.forall_mem_nil _⟩

/-- An account of the default segment has to be announced like any other. -/
lemma exists_announced (h : Settings.ofEnvironment env = .ok st) : ∃ s, Announces env s := by
  by_contra hnone
  obtain ⟨accounts, haccounts, -⟩ := (ofEnvironment_eq_ok_iff.1 h).1
  have hdefault : "DEFAULT" ∈ env.segments := mem_segments_iff.2 (.inr ⟨not_exists.1 hnone, rfl⟩)
  obtain ⟨a, ha⟩ := exists_mapM_eq_ok.1 ⟨accounts, haccounts⟩ _ hdefault
  obtain ⟨x, hx, -⟩ := Option.map_eq_some_iff.1 (account_eq_ok ha).2.host
  have hname : x.1 = accountStart "DEFAULT" ++ "HOST" := by simpa using List.find?_some hx
  refine hnone ⟨"DEFAULT", x, List.mem_of_find?_eq_some hx, ?_⟩
  rw [hname]
  decide

end Accounts

section Order

variable (hnames : (env.map (·.1)).Nodup) (horder : env'.Perm env)

include hnames horder in
lemma value?_perm : env'.value? = env.value? := by
  have hnames' : (env'.map (·.1)).Nodup := (horder.map _).nodup_iff.2 hnames
  funext key
  have hfind : env'.find? (·.1 == key) = env.find? (·.1 == key) := by
    ext x
    rw [find?_key_eq_some hnames, find?_key_eq_some hnames', horder.mem_iff]
  rw [value?, value?, hfind]

include horder in
lemma segments_perm : env'.segments = env.segments := by
  have hsorted : (env'.filterMap fun v => segment? v.1).mergeSort (· ≤ ·) =
      (env.filterMap fun v => segment? v.1).mergeSort (· ≤ ·) :=
    eq_sorted (pairwise_sorted _) ((List.mergeSort_perm _ _).trans (horder.filterMap _))
  rw [segments, segments, hsorted]

/-- Whatever is read of an environment is read of the values of its variables. -/
lemma readers_eq (h : env'.value? = env.value?) : env'.required = env.required ∧
    env'.natural = env.natural ∧ env'.bool = env.bool := by
  refine ⟨funext fun key => ?_, funext fun key => funext fun d => ?_,
    funext fun key => funext fun d => ?_⟩
  · rw [required, required, h]
  · rw [natural, natural, h]
  · rw [bool, bool, h]

include hnames horder in
lemma ofEnvironment_perm : Settings.ofEnvironment env' = Settings.ofEnvironment env := by
  obtain ⟨hrequired, hnatural, hbool⟩ := readers_eq (value?_perm hnames horder)
  have haccount : env'.account = env.account := by
    funext s
    rw [account, account, hrequired, hnatural, hbool]
  rw [Settings.ofEnvironment, Settings.ofEnvironment, segments_perm horder, haccount, hnatural,
    hbool]

end Order

end Environment

namespace Settings

open Environment

/-- Settings that are read mirror their environment, and they are the same for any order of its
variables. -/
theorem loaded_mirrors (env : Environment) (hnames : (env.map (·.1)).Nodup) (st : Settings)
    (h : ofEnvironment env = .ok st) :
    st.Mirrors env ∧ ∀ env' : Environment, env'.Perm env → ofEnvironment env' = .ok st := by
  refine ⟨⟨ascending_ids h, mem_ids_iff h, fun s t hs ht => ?_, fun s => account_of_announced h,
    fun a ha => ?_, fun x hx => natural_eq_ok (limits_eq_ok h x hx)⟩, fun env' horder => ?_⟩
  · exact lower_inj (isSegment_of_announces hs) (isSegment_of_announces ht)
  · obtain ⟨s, -, hs⟩ := (mem_accounts_iff h).1 ha
    exact complete_of_account hs
  · rw [ofEnvironment_perm hnames horder, h]

/-- Two accounts whose ids are not in the order of their segments `W` and `_W_`. -/
theorem loaded_mirrors_of_alikeVariables :
    (Sample.alikeVariables.map (·.1)).Nodup ∧ ∃ st, ofEnvironment Sample.alikeVariables = .ok st ∧
      st.Mirrors Sample.alikeVariables ∧ st.accounts.map (·.id) = ["_w_", "w"] ∧
      ofEnvironment Sample.alikeVariables.reverse = .ok st := by
  have hnames : (Sample.alikeVariables.map (·.1)).Nodup := by decide
  obtain ⟨st, hst⟩ := Sample.exists_alikeVariables
  obtain ⟨hmirrors, horder⟩ := loaded_mirrors _ hnames st hst
  have hmem : ∀ id, id ∈ st.accounts.map (·.id) ↔ id ∈ ["_w_", "w"] := by
    intro id
    have hlower : Text.lower "W" = "w" ∧ Text.lower "_W_" = "_w_" := by decide
    have hw := Sample.announces_alikeVariables.2 (.inl rfl : "W" = "W" ∨ "W" = "_W_")
    rw [hmirrors.ids, or_iff_left fun hnone => hnone.1 "W" hw]
    simp [Sample.announces_alikeVariables, hlower, or_and_right, exists_or, or_comm, eq_comm]
  have hids : st.accounts.map (·.id) = ["_w_", "w"] := by
    refine List.Perm.eq_of_pairwise (fun a b _ _ hab hba => absurd hba (String.lt_asymm hab))
      hmirrors.ascending (by decide) ?_
    refine (List.perm_ext_iff_of_nodup ?_ (by decide)).2 hmem
    exact hmirrors.ascending.imp fun hlt => String.ne_of_lt hlt
  exact ⟨hnames, st, hst, hmirrors, hids, horder _ (List.reverse_perm _)⟩

end Settings

end Mailroom
