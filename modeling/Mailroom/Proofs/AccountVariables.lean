import Mathlib.Data.List.DropRight
import Mailroom.Proofs.Checks
import Mailroom.Settings

/-!
# The variables of an account

An account is announced by a variable `MAIL_IMAP_<SEGMENT>_HOST` and read from variables that start
alike. The segment of the announcement may begin and end with underscores, which are left out of the
start of the names that are read. So an account is read from the variables of its own segment
exactly if that has no underscore at its ends; with one it is read from those of another segment.
-/

namespace Mailroom

namespace Text

variable {p : Char → Bool} {s : List Char}

lemma trimBy_eq (p : Char → Bool) (s : List Char) : trimBy p s = (s.dropWhile p).rdropWhile p := rfl

/-- Nothing is trimmed off exactly if both ends stay. -/
lemma trimBy_eq_self_iff : trimBy p s = s ↔
    (∀ c, s.head? = some c → p c = false) ∧ ∀ c, s.getLast? = some c → p c = false := by
  have hhead : s.dropWhile p = s ↔ ∀ c, s.head? = some c → p c = false := by
    rw [List.dropWhile_eq_self_iff]
    cases s <;> simp
  have hlast : s.rdropWhile p = s ↔ ∀ c, s.getLast? = some c → p c = false := by
    rw [List.rdropWhile_eq_self_iff]
    rcases List.eq_nil_or_concat s with rfl | ⟨r, c, rfl⟩ <;> simp
  rw [trimBy_eq, ← hhead, ← hlast]
  constructor
  · intro h
    have hdrop : s.dropWhile p = s := by
      apply (List.dropWhile_suffix p).eq_of_length_le
      conv_lhs => rw [← h]
      exact (List.rdropWhile_prefix p _).length_le
    rw [hdrop] at h
    exact ⟨hdrop, h⟩
  · rintro ⟨hdrop, hrest⟩
    rw [hdrop, hrest]

lemma trimBy_trimBy : trimBy p (trimBy p s) = trimBy p s := by
  have hdrop : (trimBy p s).dropWhile p = trimBy p s := by
    rw [trimBy_eq, List.dropWhile_eq_self_iff]
    intro hpos
    rw [(List.rdropWhile_prefix p _).getElem hpos]
    exact List.dropWhile_get_zero_not _ _ _
  rw [trimBy_eq, hdrop, trimBy_eq, List.rdropWhile_idempotent]

/-- Lower case of a text in ASCII is that of its characters. -/
lemma lowerFrom_eq_map {before : List Char} (hs : ∀ c ∈ s, c.toNat < 0x80) :
    lowerFrom before s = s.map Char.toLower := by
  induction s generalizing before with
  | nil => rfl
  | cons c r ih =>
    obtain ⟨hc, hr⟩ := List.forall_mem_cons.1 hs
    rw [lowerFrom, lowerChar, if_pos hc, ih hr]
    rfl

end Text

namespace Environment

variable {env : Environment} {s t x y key : String}

/-- The texts by which the names of variables tell accounts apart. -/
def IsSegment (s : String) : Prop :=
  s ≠ "" ∧ ∀ c ∈ s.toList, isSegmentChar c

/-- A variable announces an account. -/
def Announces (env : Environment) (s : String) : Prop :=
  ∃ v ∈ env, segment? v.1 = some s

/-- The start of the name of the variable that announces an account. -/
def ownStart (s : String) : String :=
  "MAIL_IMAP_" ++ s ++ "_"

/-- A segment without the underscores at its ends. -/
def trimmed (s : String) : String :=
  String.ofList (Text.trimBy (· == '_') s.toList)

/-- An account is what the variables with a common start say, and has the usual port and a secure
connection unless they say otherwise. -/
structure Supplies (env : Environment) (start : String) (a : Account) : Prop where
  host : env.value? (start ++ "HOST") = some a.host
  user : env.value? (start ++ "USER") = some a.user
  password : env.value? (start ++ "PASS") = some a.password
  port : ∀ v, env.value? (start ++ "PORT") = some v → Text.readInt? v = some (a.port : Int)
  usualPort : env.value? (start ++ "PORT") = none → a.port = 993
  secure : ∀ v, env.value? (start ++ "SECURE") = some v → readBool? v = some a.secure
  usuallySecure : env.value? (start ++ "SECURE") = none → a.secure = true

/-- How the names of an account's variables end. -/
def accountFields : List String :=
  ["HOST", "USER", "PASS", "PORT", "SECURE"]

section Names

lemma accountStart_eq (s : String) : accountStart s = ownStart (trimmed s) := rfl

/-- What stands behind the last underscore of a text, and what stands before it. -/
lemma last_field_inj {xs ys fs gs : List Char} (hf : '_' ∉ fs) (hg : '_' ∉ gs)
    (h : xs ++ '_' :: fs = ys ++ '_' :: gs) : xs = ys ∧ fs = gs := by
  rcases List.append_eq_append_iff.1 h with ⟨mid, rfl, hmid⟩ | ⟨mid, rfl, hmid⟩
  · cases mid with
    | nil => simpa using hmid
    | cons c mid =>
      obtain ⟨-, rfl⟩ := List.cons.inj hmid
      simp at hf
  · cases mid with
    | nil => simpa [eq_comm] using hmid
    | cons c mid =>
      obtain ⟨-, rfl⟩ := List.cons.inj hmid
      simp at hg

lemma notMem_field (hx : x ∈ accountFields) : '_' ∉ x.toList := by
  revert x
  decide

lemma toList_ownStart_append : (ownStart s ++ x).toList =
    ("MAIL_IMAP_".toList ++ s.toList) ++ '_' :: x.toList := by
  simp only [ownStart, String.toList_append, List.append_assoc]
  rfl

/-- The names of variables are composed of their parts in one way. -/
lemma ownStart_append_iff (hx : '_' ∉ x.toList) (hy : '_' ∉ y.toList) :
    ownStart s ++ x = ownStart t ++ y ↔ s = t ∧ x = y := by
  constructor
  · intro h
    have hchars := congrArg String.toList h
    rw [toList_ownStart_append, toList_ownStart_append] at hchars
    obtain ⟨hstart, hfield⟩ := last_field_inj hx hy hchars
    exact ⟨String.toList_inj.1 (List.append_cancel_left hstart), String.toList_inj.1 hfield⟩
  · rintro ⟨rfl, rfl⟩
    rfl

/-- A text without the line end that it may have. -/
lemma withoutLineEnd_eq_iff {cs body : List Char} (hbody : body.getLast? ≠ some '\n') :
    withoutLineEnd cs = body ↔ cs = body ∨ cs = body ++ ['\n'] := by
  unfold withoutLineEnd
  rcases List.eq_nil_or_concat cs with rfl | ⟨r, c, rfl⟩
  · simp
  · rw [List.concat_eq_append, List.reverse_append, List.reverse_singleton, List.singleton_append]
    by_cases hc : c = '\n'
    · subst hc
      change r.reverse.reverse = body ↔ _
      rw [List.reverse_reverse, List.append_left_inj, iff_or_self]
      rintro rfl
      simp at hbody
    · rw [List.append_singleton_inj]
      simp [hc]

/-- A text between two others is found by cutting off their lengths. -/
lemma cut_eq_iff {start stop body middle : List Char} :
    (start.isPrefixOf body && stop.isSuffixOf (body.drop start.length)) ∧
        (body.drop start.length).take (body.length - start.length - stop.length) = middle ↔
      body = start ++ middle ++ stop := by
  rw [Bool.and_eq_true, List.isPrefixOf_iff_prefix, List.isSuffixOf_iff_suffix]
  constructor
  · rintro ⟨⟨⟨rest, rfl⟩, hstop⟩, hmiddle⟩
    rw [List.drop_left] at hstop hmiddle
    obtain ⟨inner, rfl⟩ := hstop
    rw [← hmiddle]
    simp
  · rintro rfl
    simp

lemma segment?_eq_some_iff : segment? key = some s ↔
    IsSegment s ∧ (key = ownStart s ++ "HOST" ∨ key = ownStart s ++ "HOST\n") := by
  have hbody : withoutLineEnd key.toList = "MAIL_IMAP_".toList ++ s.toList ++ "_HOST".toList ↔
      key = ownStart s ++ "HOST" ∨ key = ownStart s ++ "HOST\n" := by
    have hlast : ("MAIL_IMAP_".toList ++ s.toList ++ "_HOST".toList).getLast? = some 'T' := by
      rw [List.getLast?_append]
      rfl
    rw [withoutLineEnd_eq_iff (by rw [hlast]; decide), ← String.toList_inj, ← String.toList_inj,
      toList_ownStart_append, toList_ownStart_append]
    simp
  rw [← hbody, ← cut_eq_iff, segment?, Option.ite_none_right_eq_some, Option.some.injEq,
    Bool.and_eq_true, Bool.and_eq_true]
  constructor
  · rintro ⟨⟨⟨hends, hnonempty⟩, hall⟩, rfl⟩
    refine ⟨⟨fun hempty => ?_, fun c hc => ?_⟩, hends, String.toList_ofList.symm⟩
    · rw [String.ofList_eq_empty_iff.1 hempty] at hnonempty
      cases hnonempty
    · rw [String.toList_ofList] at hc
      exact List.all_eq_true.1 hall c hc
  · rintro ⟨⟨hnonempty, hall⟩, hends, hmiddle⟩
    rw [hmiddle]
    refine ⟨⟨⟨hends, ?_⟩, List.all_eq_true.2 hall⟩, String.ofList_toList⟩
    simpa using hnonempty

/-- A character of a segment can be read off its lower case. -/
lemma toUpper_toLower {c : Char} (h : isSegmentChar c) :
    c.toNat < 0x80 ∧ c.toLower.toUpper = c := by
  have hascii : c.toNat < 0x80 := by
    simp only [isSegmentChar, Bool.or_eq_true, Bool.and_eq_true, decide_eq_true_eq, beq_iff_eq,
      Char.le_def, UInt32.le_iff_toNat_le] at h
    rcases h with (⟨-, h⟩ | ⟨-, h⟩) | rfl
    · exact Nat.lt_of_le_of_lt h (by decide)
    · exact Nat.lt_of_le_of_lt h (by decide)
    · decide
  have hall : ∀ c : Char, c.toNat < 0x80 → isSegmentChar c → c.toLower.toUpper = c :=
    Text.forall_ascii (by decide)
  exact ⟨hascii, hall c hascii h⟩

/-- A segment is put in lower case character by character. -/
lemma toList_lower (hs : IsSegment s) : (Text.lower s).toList = s.toList.map Char.toLower := by
  rw [Text.lower, String.toList_ofList, Text.lowerChars,
    Text.lowerFrom_eq_map fun c hc => (toUpper_toLower (hs.2 c hc)).1]

lemma length_lower (hs : IsSegment s) : (Text.lower s).length = s.length := by
  rw [← String.length_toList, toList_lower hs, List.length_map, String.length_toList]

lemma lower_inj (hs : IsSegment s) (ht : IsSegment t) (h : Text.lower s = Text.lower t) :
    s = t := by
  have hread : ∀ {u : String}, IsSegment u →
      (Text.lower u).toList.map Char.toUpper = u.toList := by
    intro u hu
    rw [toList_lower hu, List.map_map]
    exact (List.map_congr_left fun c hc => (toUpper_toLower (hu.2 c hc)).2).trans (List.map_id _)
  apply String.toList_inj.1
  rw [← hread hs, h, hread ht]

lemma trimmed_trimmed (s : String) : trimmed (trimmed s) = trimmed s := by
  unfold trimmed
  rw [String.toList_ofList, Text.trimBy_trimBy]

/-- A segment is left as it is exactly if it has no underscore at its ends. -/
lemma trimmed_eq_self_iff : trimmed s = s ↔
    s.toList.head? ≠ some '_' ∧ s.toList.getLast? ≠ some '_' := by
  have hchars : trimmed s = s ↔ Text.trimBy (· == '_') s.toList = s.toList := by
    rw [← String.toList_inj, trimmed, String.toList_ofList]
  rw [hchars, Text.trimBy_eq_self_iff]
  simp only [beq_eq_false_iff_ne]
  grind

end Names

section Values

variable {b : Bool} {n : Nat} {v : String} {a : Account}

lemma required_eq_ok (h : env.required key = .ok v) : env.value? key = some v := by
  unfold required at h
  split at h
  · cases h
  · next w hw =>
    split at h
    · cases h
    · cases h
      exact hw

lemma natural_eq_ok {d : Nat} (h : env.natural key d = .ok n) :
    (∀ v, env.value? key = some v → Text.readInt? v = some (n : Int)) ∧
      (env.value? key = none → n = d) := by
  unfold natural at h
  split at h
  · next hnone =>
    cases h
    simp [hnone]
  · next w hw =>
    split at h
    · next k hk =>
      cases h
      simp [hw, hk]
    · cases h

lemma bool_eq_ok {d : Bool} (h : env.bool key d = .ok b) :
    (∀ v, env.value? key = some v → readBool? v = some b) ∧ (env.value? key = none → b = d) := by
  unfold bool at h
  split at h
  · next hnone =>
    cases h
    simp [hnone]
  · next w hw =>
    split at h
    · next k hk =>
      cases h
      simp [hw, hk]
    · cases h

lemma natural_unset {d : Nat} (h : env.value? key = none) : env.natural key d = .ok d := by
  rw [natural, h]

lemma bool_unset {d : Bool} (h : env.value? key = none) : env.bool key d = .ok d := by
  rw [bool, h]

/-- An account is read if each of its fields is, and if its port is of 16 bits. -/
lemma account_eq_ok_iff : env.account s = .ok a ↔
    env.natural (accountStart s ++ "PORT") 993 = .ok a.port ∧ a.port ≤ 65535 ∧
      env.required (accountStart s ++ "HOST") = .ok a.host ∧
      env.required (accountStart s ++ "USER") = .ok a.user ∧
      env.required (accountStart s ++ "PASS") = .ok a.password ∧
      env.bool (accountStart s ++ "SECURE") true = .ok a.secure ∧ a.id = Text.lower s := by
  unfold account
  dsimp only
  simp only [bind_eq_ok, passed_eq_ok, Nat.not_lt]
  constructor
  · rintro ⟨port, hport, hbits, host, hhost, user, huser, password, hpassword, secure, hsecure, h⟩
    obtain rfl := Except.ok.inj h
    exact ⟨hport, hbits, hhost, huser, hpassword, hsecure, rfl⟩
  · rintro ⟨hport, hbits, hhost, huser, hpassword, hsecure, hid⟩
    refine ⟨_, hport, hbits, _, hhost, _, huser, _, hpassword, _, hsecure, ?_⟩
    rw [← hid]
    rfl

/-- An account that could be read is supplied by the variables that start like it. -/
lemma account_eq_ok (h : env.account s = .ok a) :
    a.id = Text.lower s ∧ Supplies env (accountStart s) a := by
  obtain ⟨hport, -, hhost, huser, hpassword, hsecure, hid⟩ := account_eq_ok_iff.1 h
  exact ⟨hid, required_eq_ok hhost, required_eq_ok huser, required_eq_ok hpassword,
    (natural_eq_ok hport).1, (natural_eq_ok hport).2, (bool_eq_ok hsecure).1,
    (bool_eq_ok hsecure).2⟩

/-- An account is read if its variables are set as far as they have to be. -/
lemma exists_account
    (hset : ∀ x ∈ ["HOST", "USER", "PASS"], ∃ v, env.required (accountStart s ++ x) = .ok v)
    (hunset : ∀ x ∈ ["PORT", "SECURE"], env.value? (accountStart s ++ x) = none) :
    ∃ a, env.account s = .ok a := by
  simp only [List.forall_mem_cons] at hset hunset
  obtain ⟨⟨host, hhost⟩, ⟨user, huser⟩, ⟨password, hpassword⟩, -⟩ := hset
  obtain ⟨hport, hsecure, -⟩ := hunset
  have hbits : 993 ≤ 65535 := by decide
  exact ⟨⟨Text.lower s, host, user, password, 993, true⟩, account_eq_ok_iff.2
    ⟨natural_unset hport, hbits, hhost, huser, hpassword, bool_unset hsecure, rfl⟩⟩

end Values

section Segments

lemma isSegment_of_announces (hs : Announces env s) : IsSegment s := by
  obtain ⟨v, -, hv⟩ := hs
  exact (segment?_eq_some_iff.1 hv).1

lemma announces_iff_mem : Announces env s ↔ s ∈ env.filterMap fun v => segment? v.1 :=
  List.mem_filterMap.symm

lemma mem_announced : s ∈ ((env.filterMap fun v => segment? v.1).mergeSort (· ≤ ·)).eraseDups ↔
    Announces env s := by
  rw [List.mem_eraseDups, List.mem_mergeSort, announces_iff_mem]

lemma mem_segments (hs : Announces env s) : t ∈ env.segments ↔ Announces env t := by
  unfold segments
  split
  · next hnone =>
    have hmem := mem_announced.2 hs
    rw [hnone] at hmem
    cases hmem
  · exact mem_announced

lemma isSegment_of_mem (hs : Announces env s) (ht : t ∈ env.segments) : IsSegment t :=
  isSegment_of_announces ((mem_segments hs).1 ht)

end Segments

section Loading

variable {st : Settings} {a : Account}

lemma ofEnvironment_eq_ok_iff : Settings.ofEnvironment env = .ok st ↔
    (∃ accounts, env.segments.mapM env.account = .ok accounts ∧
      st.accounts = accounts.mergeSort fun a b => a.id ≤ b.id) ∧
    env.bool "MAIL_IMAP_WRITE_ENABLED" false = .ok st.writeEnabled ∧
    env.natural "MAIL_IMAP_CONNECT_TIMEOUT_MS" 30000 = .ok st.connectTimeout ∧
    env.natural "MAIL_IMAP_GREETING_TIMEOUT_MS" 15000 = .ok st.greetingTimeout ∧
    env.natural "MAIL_IMAP_SOCKET_TIMEOUT_MS" 300000 = .ok st.socketTimeout ∧
    env.natural "MAIL_IMAP_CURSOR_TTL_SECONDS" 600 = .ok st.cursorTtl ∧
    env.natural "MAIL_IMAP_CURSOR_MAX_ENTRIES" 512 = .ok st.cursorCapacity := by
  unfold Settings.ofEnvironment
  simp only [bind_eq_ok]
  constructor
  · rintro ⟨accounts, haccounts, writeEnabled, hwrite, connect, hconnect, greeting, hgreeting,
      socket, hsocket, ttl, httl, capacity, hcapacity, h⟩
    obtain rfl := Except.ok.inj h
    exact ⟨⟨accounts, haccounts, rfl⟩, hwrite, hconnect, hgreeting, hsocket, httl, hcapacity⟩
  · rintro ⟨⟨accounts, haccounts, hsorted⟩, hwrite, hconnect, hgreeting, hsocket, httl, hcapacity⟩
    refine ⟨accounts, haccounts, _, hwrite, _, hconnect, _, hgreeting, _, hsocket, _, httl, _,
      hcapacity, ?_⟩
    rw [← hsorted]
    rfl

/-- The settings keep an account for each announced segment, under the segment in lower case. -/
lemma account_of_announced (h : Settings.ofEnvironment env = .ok st) (hs : Announces env s) :
    ∃ a, st.account (Text.lower s) = .ok a ∧ Supplies env (accountStart s) a := by
  obtain ⟨accounts, haccounts, hkept⟩ := (ofEnvironment_eq_ok_iff.1 h).1
  have hmem : s ∈ env.segments := (mem_segments hs).2 hs
  obtain ⟨a, ha⟩ := exists_mapM_eq_ok.1 ⟨accounts, haccounts⟩ s hmem
  obtain ⟨hid, hsupplies⟩ := account_eq_ok ha
  refine ⟨a, ?_, hsupplies⟩
  unfold Settings.account
  rw [hkept]
  cases hfind : (accounts.mergeSort fun a b => a.id ≤ b.id).find? (·.id == Text.lower s) with
  | none =>
    have hother := List.find?_eq_none.1 hfind a
      (List.mem_mergeSort.2 ((mem_of_mapM_eq_ok haccounts).2 ⟨s, hmem, ha⟩))
    simp [hid] at hother
  | some b =>
    -- The account that is found belongs to a segment with the same lower case: to this one.
    obtain ⟨t, ht, hb⟩ := (mem_of_mapM_eq_ok haccounts).1
      (List.mem_mergeSort.1 (List.mem_of_find?_eq_some hfind))
    have hlower : Text.lower t = Text.lower s := by
      rw [← (account_eq_ok hb).1]
      simpa using List.find?_some hfind
    obtain rfl := lower_inj (isSegment_of_mem hs ht) (isSegment_of_mem hs hmem) hlower
    rw [ha] at hb
    rw [Except.ok.inj hb]

/-- The variables that are about no account. -/
def generalKeys : List String :=
  ["MAIL_IMAP_WRITE_ENABLED", "MAIL_IMAP_CONNECT_TIMEOUT_MS", "MAIL_IMAP_GREETING_TIMEOUT_MS",
    "MAIL_IMAP_SOCKET_TIMEOUT_MS", "MAIL_IMAP_CURSOR_TTL_SECONDS", "MAIL_IMAP_CURSOR_MAX_ENTRIES"]

/-- With all accounts readable and nothing else set, the settings are there. -/
lemma exists_ofEnvironment (haccounts : ∀ s ∈ env.segments, ∃ a, env.account s = .ok a)
    (hunset : ∀ key ∈ generalKeys, env.value? key = none) :
    ∃ st, Settings.ofEnvironment env = .ok st := by
  obtain ⟨accounts, haccounts⟩ := exists_mapM_eq_ok.2 haccounts
  simp only [generalKeys, List.forall_mem_cons] at hunset
  obtain ⟨hwrite, hconnect, hgreeting, hsocket, httl, hcapacity, -⟩ := hunset
  exact ⟨⟨_, false, 30000, 15000, 300000, 600, 512⟩, ofEnvironment_eq_ok_iff.2
    ⟨⟨accounts, haccounts, rfl⟩, bool_unset hwrite, natural_unset hconnect, natural_unset hgreeting,
      natural_unset hsocket, natural_unset httl, natural_unset hcapacity⟩⟩

end Loading

/-- The variables by which one segment is announced and another one, without its underscores at the
ends, is supplied. -/
def misled (s : String) : Environment :=
  [(ownStart s ++ "HOST", "x"), (accountStart s ++ "HOST", "x"), (accountStart s ++ "USER", "x"),
    (accountStart s ++ "PASS", "x")]

section Misled

lemma value?_misled (hx : '_' ∉ x.toList) : (misled s).value? (ownStart t ++ x) =
    if (s = t ∧ x = "HOST") ∨ (trimmed s = t ∧ x ∈ ["HOST", "USER", "PASS"]) then some "x"
    else none := by
  have hfield : ∀ u, ∀ y ∈ accountFields,
      (ownStart u ++ y == ownStart t ++ x) = decide (u = t ∧ x = y) := by
    intro u y hy
    rw [beq_eq_decide, decide_eq_decide, ownStart_append_iff (notMem_field hy) hx, eq_comm (a := y)]
  simp only [value?, misled, accountStart_eq, List.find?_cons, List.find?_nil]
  rw [hfield _ _ (by decide), hfield _ _ (by decide), hfield _ _ (by decide),
    hfield _ _ (by decide)]
  grind

lemma unset_misled (hx : '_' ∉ x.toList) (hother : x ∉ ["HOST", "USER", "PASS"]) :
    (misled s).value? (ownStart t ++ x) = none := by
  rw [value?_misled hx, if_neg]
  rintro (⟨-, rfl⟩ | ⟨-, hfield⟩)
  · exact hother List.mem_cons_self
  · exact hother hfield

/-- The names of the general variables are composed like those of an account, and end otherwise. -/
lemma general_key (h : key ∈ generalKeys) : ∃ t x, '_' ∉ x.toList ∧ x ∉ ["HOST", "USER", "PASS"] ∧
    key = ownStart t ++ x := by
  revert key
  simp only [generalKeys, List.forall_mem_cons]
  exact ⟨⟨"WRITE", "ENABLED", by decide⟩, ⟨"CONNECT_TIMEOUT", "MS", by decide⟩,
    ⟨"GREETING_TIMEOUT", "MS", by decide⟩, ⟨"SOCKET_TIMEOUT", "MS", by decide⟩,
    ⟨"CURSOR_TTL", "SECONDS", by decide⟩, ⟨"CURSOR_MAX", "ENTRIES", by decide⟩,
    List.forall_mem_nil _⟩

lemma announces_misled (hs : IsSegment s) : Announces (misled s) s :=
  ⟨_, List.mem_cons_self, segment?_eq_some_iff.2 ⟨hs, .inl rfl⟩⟩

/-- Both segments that are announced are supplied by the same variables. -/
lemma accountStart_of_announced (ht : Announces (misled s) t) :
    accountStart t = accountStart s := by
  obtain ⟨v, hv, hsegment⟩ := ht
  have hset : (misled s).value? v.1 ≠ none := by
    simp only [value?, ne_eq, Option.map_eq_none_iff, List.find?_eq_none, not_forall]
    exact ⟨v, hv, by simp⟩
  rcases (segment?_eq_some_iff.1 hsegment).2 with hname | hname
  · rw [hname, value?_misled (by decide)] at hset
    split at hset
    · next hkey =>
      rcases hkey with ⟨rfl, -⟩ | ⟨rfl, -⟩
      · rfl
      · rw [accountStart_eq, accountStart_eq, trimmed_trimmed]
    · exact absurd rfl hset
  · rw [hname, value?_misled (by decide), if_neg (by simp)] at hset
    exact absurd rfl hset

lemma exists_ofEnvironment_misled (hs : IsSegment s) :
    ∃ st, Settings.ofEnvironment (misled s) = .ok st := by
  apply exists_ofEnvironment
  · intro t ht
    have hstart := accountStart_of_announced ((mem_segments (announces_misled hs)).1 ht)
    apply exists_account
    · intro x hx
      have hvalue : (misled s).value? (accountStart s ++ x) = some "x" := by
        rw [accountStart_eq, value?_misled (notMem_field (by revert x; decide)),
          if_pos (.inr ⟨rfl, hx⟩)]
      rw [hstart, required, hvalue]
      exact ⟨"x", rfl⟩
    · intro x hx
      rw [hstart]
      exact unset_misled (notMem_field (by revert x; decide)) (by revert x; decide)
  · intro key hkey
    obtain ⟨t, x, hx, hother, rfl⟩ := general_key hkey
    exact unset_misled hx hother

end Misled

/-- For each segment that variables can announce: an announced account is read from variables with a
common start. They are those of its own segment in all environments exactly if the segment neither
begins nor ends with an underscore. The variables of two segments that differ in more than their
underscores at the ends have different names. -/
theorem account_supplied_iff (s : String) (hs : IsSegment s) :
    (∀ env st, Settings.ofEnvironment env = .ok st → Announces env s →
      ∃ a, st.account (Text.lower s) = .ok a ∧ Supplies env (accountStart s) a) ∧
    ((∀ env st, Settings.ofEnvironment env = .ok st → Announces env s →
        ∃ a, st.account (Text.lower s) = .ok a ∧ Supplies env (ownStart s) a) ↔
      s.toList.head? ≠ some '_' ∧ s.toList.getLast? ≠ some '_') ∧
    ∀ t, ∀ x ∈ accountFields, ∀ y ∈ accountFields, accountStart s ++ x = accountStart t ++ y →
      trimmed s = trimmed t ∧ x = y := by
  refine ⟨fun env st => account_of_announced, ?_, fun t x hx y hy hname => ?_⟩
  · rw [← trimmed_eq_self_iff]
    constructor
    · intro hown
      obtain ⟨st, hst⟩ := exists_ofEnvironment_misled hs
      obtain ⟨a, -, hsupplies⟩ := hown _ st hst (announces_misled hs)
      have huser := hsupplies.user
      rw [value?_misled (by decide)] at huser
      split at huser
      · next hset =>
        rcases hset with ⟨-, hfield⟩ | ⟨htrimmed, -⟩
        · exact absurd hfield (by decide)
        · exact htrimmed
      · cases huser
    · intro htrimmed env st hst hannounced
      have hread := account_of_announced hst hannounced
      rwa [accountStart_eq, htrimmed] at hread
  · rw [accountStart_eq, accountStart_eq] at hname
    exact (ownStart_append_iff (notMem_field hx) (notMem_field hy)).1 hname

end Environment

namespace Sample

/-- Two accounts whose segments differ in underscores only. -/
def alikeVariables : Environment :=
  [("MAIL_IMAP_W_HOST", "w.example.com"), ("MAIL_IMAP_W_USER", "u"), ("MAIL_IMAP_W_PASS", "p"),
    ("MAIL_IMAP__W__HOST", "_w_.example.com"), ("MAIL_IMAP__W__USER", "_u_"),
    ("MAIL_IMAP__W__PASS", "_p_")]

lemma announces_alikeVariables {s : String} :
    alikeVariables.Announces s ↔ s = "W" ∨ s = "_W_" := by
  have hsegments : alikeVariables.filterMap (fun v => Environment.segment? v.1) = ["W", "_W_"] := by
    decide +kernel
  rw [Environment.announces_iff_mem, hsegments]
  simp

lemma exists_alikeVariables : ∃ st, Settings.ofEnvironment alikeVariables = .ok st := by
  apply Environment.exists_ofEnvironment
  · intro s hs
    rcases announces_alikeVariables.1
      ((Environment.mem_segments (announces_alikeVariables.2 (.inl rfl))).1 hs) with rfl | rfl
    · exact ⟨_, rfl⟩
    · exact ⟨_, rfl⟩
  · decide +kernel

end Sample

namespace Environment

theorem account_supplied_iff_of_alikeVariables :
    IsSegment "W" ∧ ∃ st a, Settings.ofEnvironment Sample.alikeVariables = .ok st ∧
      st.account "w" = .ok a ∧ Supplies Sample.alikeVariables (ownStart "W") a := by
  have hs : IsSegment "W" := ⟨by decide, by simp [isSegmentChar]⟩
  obtain ⟨st, hst⟩ := Sample.exists_alikeVariables
  obtain ⟨a, ha, hsupplies⟩ := ((account_supplied_iff "W" hs).2.1.2 (by simp)) _ st hst
    (Sample.announces_alikeVariables.2 (.inl rfl))
  exact ⟨hs, st, a, hst, ha, hsupplies⟩

/-- The account with the underscores has the host of the one without. -/
theorem alikeVariables_misled :
    ¬ ∀ env st s, Settings.ofEnvironment env = .ok st → Announces env s →
      ∃ a, st.account (Text.lower s) = .ok a ∧ Supplies env (ownStart s) a := by
  intro h
  obtain ⟨st, hst⟩ := Sample.exists_alikeVariables
  have hannounced := Sample.announces_alikeVariables.2 (.inr rfl)
  obtain ⟨a, ha, hown⟩ := h _ st "_W_" hst hannounced
  obtain ⟨b, hb, hread⟩ := account_of_announced hst hannounced
  obtain rfl : a = b := Except.ok.inj (ha.symm.trans hb)
  have hhost : some "_w_.example.com" = some "w.example.com" := hown.host.trans hread.host.symm
  simp at hhost

end Environment

end Mailroom
