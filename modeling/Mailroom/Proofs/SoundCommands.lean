import Mathlib.Tactic.MkIffOfInductiveProp
import Mathlib.Tactic.Tauto
import Mailroom.Proofs.Checks
import Mailroom.Task.Changing
import Mailroom.Task.Reading

/-!
# Sound commands

What can be told of a call without a server: whether its arguments fit its tool, and whether its
command is sound under the settings. Both say one condition at a time what the checks that come
first in a command say in some order, each in its own.
-/

namespace Mailroom

namespace Arguments

/-- Arguments that a tool is run with. Those that are null count as absent. -/
structure Fits (t : Tool) (as : Arguments) : Prop where
  known : ∀ a ∈ as, a.2.isNull = false →
    ∃ p, t.parameter? a.1 = some p ∧ isOfKind p.kind a.2 ∧ itemsAreStrings a.2
  required : ∀ name ∈ t.required, ∃ a ∈ as, a.1 = name ∧ a.2.isNull = false

lemma mem_present {as : Arguments} {a : String × Json} :
    a ∈ as.present ↔ a ∈ as ∧ a.2.isNull = false := by
  simp [present]

lemma checkValue_eq_ok {t : Tool} {a : String × Json} {p : Parameter}
    (hp : t.parameter? a.1 = some p) :
    checkValue t a = .ok () ↔ isOfKind p.kind a.2 ∧ itemsAreStrings a.2 := by
  unfold checkValue
  rw [hp]
  dsimp only
  cases isOfKind p.kind a.2 <;> cases itemsAreStrings a.2 <;> simp

lemma has_iff {as : Arguments} {name : String} :
    as.present.has name ↔ ∃ a ∈ as, a.1 = name ∧ a.2.isNull = false := by
  simp only [has, List.any_eq_true, mem_present, beq_iff_eq]
  exact ⟨fun ⟨a, ⟨ha, hnull⟩, hname⟩ => ⟨a, ha, hname, hnull⟩,
    fun ⟨a, ha, hname, hnull⟩ => ⟨a, ⟨ha, hnull⟩, hname⟩⟩

lemma check_eq_ok {tool : String} {as as' : Arguments} :
    as.check tool = .ok as' ↔
      ∃ t, Tool.ofName? tool = some t ∧ as.Fits t ∧ as' = as.present := by
  unfold check
  cases Tool.ofName? tool with
  | none => simp
  | some t =>
    have hunknown : (!((as.present.map (·.1)).filter fun name =>
        (t.parameter? name).isNone).isEmpty) = false ↔
        ∀ a ∈ as.present, ∃ p, t.parameter? a.1 = some p := by
      simp [List.filter_eq_nil_iff, Option.ne_none_iff_exists']
    have hmissing : (!(t.required.filter fun name => !as.present.has name).isEmpty) = false ↔
        ∀ name ∈ t.required, ∃ a ∈ as, a.1 = name ∧ a.2.isNull = false := by
      simp [List.filter_eq_nil_iff, has_iff]
    dsimp only
    rw [passed_eq_ok, passed_eq_ok, bind_eq_ok, Bool.not_eq_true, Bool.not_eq_true, hunknown,
      hmissing]
    constructor
    · rintro ⟨hknown, hrequired, _, hvalues, h⟩
      refine ⟨t, rfl, ⟨fun a ha hnull => ?_, hrequired⟩, (Except.ok.inj h).symm⟩
      have hpresent := mem_present.2 ⟨ha, hnull⟩
      obtain ⟨p, hp⟩ := hknown a hpresent
      exact ⟨p, hp, (checkValue_eq_ok hp).1 (forM_eq_ok.1 hvalues a hpresent)⟩
    · rintro ⟨_, ⟨⟩, hfits, rfl⟩
      have hvalues : ∀ a ∈ as.present, ∃ p, t.parameter? a.1 = some p ∧
          isOfKind p.kind a.2 ∧ itemsAreStrings a.2 := fun a ha =>
        hfits.known a (mem_present.1 ha).1 (mem_present.1 ha).2
      refine ⟨fun a ha => ?_, hfits.required, (), forM_eq_ok.2 fun a ha => ?_, rfl⟩
      · obtain ⟨p, hp, -⟩ := hvalues a ha
        exact ⟨p, hp⟩
      · obtain ⟨p, hp, hvalue⟩ := hvalues a ha
        exact (checkValue_eq_ok hp).2 hvalue

end Arguments

namespace Command

/-- The accounts that a command names. -/
@[simp]
def accountIds : Command → List String
  | .listAccounts => []
  | .search r => [r.accountId]
  | .copy a _ _ d => [a, d.getD a]
  | .verifyAccount a | .listMailboxes a | .readMessage a _ _ | .readSource a _ _
  | .updateFlags a _ _ _ | .move a _ _ | .delete a _ _ => [a]

/-- The mailboxes that a command names, but for that of a message id. -/
@[simp]
def mailboxes : Command → List String
  | .search r => [r.mailbox]
  | .copy _ _ b _ | .move _ _ b => [b]
  | _ => []

/-- The message that a command is about, by its account and its id. -/
@[simp]
def message? : Command → Option (String × String)
  | .readMessage a m _ | .readSource a m _ | .updateFlags a m _ _ | .copy a m _ _ | .move a m _
  | .delete a m _ => some (a, m)
  | _ => none

@[simp]
def reads : Command → Bool
  | .listAccounts | .verifyAccount _ | .listMailboxes _ | .search _ | .readMessage ..
  | .readSource .. => true
  | .updateFlags .. | .copy .. | .move .. | .delete .. => false

/-- The numbers of a command with their bounds. -/
@[simp]
def numbers : Command → List (Int × Int × Int)
  | .search r => (r.limit, 1, 50) :: (r.lastDays.map fun n => (n, 1, 365)).toList ++
      (r.snippetMaxChars.map fun n => (n, 50, 500)).toList
  | .readMessage _ _ o =>
    [(o.bodyMaxChars, 100, 20000), (o.attachmentMaxChars.getD 10000, 100, 50000)]
  | .readSource _ _ n => [(n, 1024, 1000000)]
  | _ => []

@[simp]
def searchTexts : Command → List String
  | .search r => r.query.toList ++ r.sender.toList ++ r.recipient.toList ++ r.subject.toList
  | _ => []

@[simp]
def dates : Command → List String
  | .search r => r.startDate.toList ++ r.endDate.toList
  | _ => []

@[simp]
def flags : Command → List String
  | .updateFlags _ _ add remove => add.getD [] ++ remove.getD []
  | _ => []

/-- Whether the arguments of a command go together. -/
@[simp]
def Coherent : Command → Prop
  | .search r => (r.snippetMaxChars.isSome → r.includeSnippet) ∧
      ¬ (r.cursor.isSome ∧ r.hasFilters) ∧
      ¬ (r.lastDays.isSome ∧ (r.startDate.isSome ∨ r.endDate.isSome)) ∧
      ∀ start stop a b, r.startDate = some start → r.endDate = some stop →
        Date.ofIso? start = some a → Date.ofIso? stop = some b → b.before a = false
  | .readMessage _ _ o => o.attachmentMaxChars.isSome → o.extractText
  | .updateFlags _ _ add remove => add.getD [] ≠ [] ∨ remove.getD [] ≠ []
  | .delete _ _ confirmed => confirmed
  | _ => True

/-- A command to which nothing can be objected without a server. -/
@[mk_iff]
structure Sound (st : Settings) (c : Command) : Prop where
  writes : c.reads = false → st.writeEnabled
  accountIds : ∀ a ∈ c.accountIds, Check.accountId a = .ok ()
  configured : ∀ a ∈ c.accountIds, ∃ account, st.account a = .ok account
  mailboxes : ∀ b ∈ c.mailboxes, Check.mailbox b = .ok ()
  message : ∀ a m, c.message? = some (a, m) → ∃ id, MessageId.parseFor a m = .ok id
  numbers : ∀ x ∈ c.numbers, x.2.1 ≤ x.1 ∧ x.1 ≤ x.2.2
  searchTexts : ∀ s ∈ c.searchTexts, Check.searchText s "search text" = .ok ()
  dates : ∀ s ∈ c.dates, ∃ d, Date.ofIso? s = some d
  flags : ∀ f ∈ c.flags, Check.flag f = .ok ()
  coherent : c.Coherent

end Command

namespace Search.Request

section Given

variable {α β : Type} {v : Option α} {check : α → Except Error β}

lemma whenGiven_eq_ok {b : Option β} :
    whenGiven v check = .ok b ↔
      v = none ∧ b = none ∨ ∃ a c, v = some a ∧ check a = .ok c ∧ b = some c := by
  unfold whenGiven
  cases v with
  | none => simp [eq_comm]
  | some a => cases h : check a <;> simp [Except.map, h, eq_comm]

lemma exists_whenGiven :
    (∃ b, whenGiven v check = .ok b) ↔ ∀ a ∈ v.toList, ∃ c, check a = .ok c := by
  unfold whenGiven
  cases v with
  | none => simp
  | some a => cases h : check a <;> simp [Except.map, h]

lemma discard_eq_ok {ε : Type} {x : Except ε α} :
    (discard x : Except ε Unit) = .ok () ↔ ∃ a, x = .ok a := by
  cases x with
  | error e => exact ⟨nofun, nofun⟩
  | ok a => exact ⟨fun _ => ⟨a, rfl⟩, fun _ => rfl⟩

end Given

/-- A request that passes its checks. -/
structure Valid (r : Request) : Prop where
  accountId : Check.accountId r.accountId = .ok ()
  mailbox : Check.mailbox r.mailbox = .ok ()
  limit : 1 ≤ r.limit ∧ r.limit ≤ 50
  lastDays : ∀ n ∈ r.lastDays.toList, 1 ≤ n ∧ n ≤ 365
  snippet : ∀ n ∈ r.snippetMaxChars.toList, 50 ≤ n ∧ n ≤ 500
  searchTexts : ∀ s ∈ (Command.search r).searchTexts, Check.searchText s "search text" = .ok ()
  dates : ∀ s ∈ (Command.search r).dates, ∃ d, Date.ofIso? s = some d
  coherent : (Command.search r).Coherent

lemma discard_range_eq_ok {v : Option Int} {low high : Int} {field : String} :
    (discard (whenGiven v (Check.range · low high field)) : Except Error Unit) = .ok () ↔
      ∀ n ∈ v.toList, low ≤ n ∧ n ≤ high := by
  simp only [discard_eq_ok, exists_whenGiven, exists_unit_eq_ok, Check.range_eq_ok]

lemma exists_date {v : Option String} {field : String} :
    (∃ d, whenGiven v (Check.date · field) = .ok d) ↔
      ∀ s ∈ v.toList, ∃ d, Date.ofIso? s = some d := by
  simp only [exists_whenGiven, Check.date_eq_ok]

lemma forM_searchText_eq_ok {r : Request} :
    ([r.query, r.sender, r.recipient, r.subject].forM fun v =>
      discard (whenGiven v (Check.searchText · "search text"))) = (.ok () : Except Error Unit) ↔
      ∀ s ∈ (Command.search r).searchTexts, Check.searchText s "search text" = .ok () := by
  simp only [forM_eq_ok, discard_eq_ok, exists_whenGiven, exists_unit_eq_ok, Command.searchTexts,
    List.forall_mem_append, List.forall_mem_cons, List.not_mem_nil, false_imp_iff, implies_true,
    and_true, and_assoc]

lemma datesReversed_eq_ok {r : Request} {start stop : Option Date} :
    whenGiven r.startDate (Check.date · "start_date") = .ok start →
    whenGiven r.endDate (Check.date · "end_date") = .ok stop →
    ((match start, stop with
      | some a, some b => if b.before a then throw Error.datesReversed else pure ()
      | _, _ => pure ()) = (.ok () : Except Error Unit) ↔
      ∀ first last a b, r.startDate = some first → r.endDate = some last →
        Date.ofIso? first = some a → Date.ofIso? last = some b → b.before a = false) := by
  intro hstart hstop
  rw [whenGiven_eq_ok] at hstart hstop
  rcases hstart with ⟨hnone, rfl⟩ | ⟨first, a, hfirst, ha, rfl⟩
  · simp [hnone, pure, Except.pure]
  rcases hstop with ⟨hnone, rfl⟩ | ⟨last, b, hlast, hb, rfl⟩
  · simp [hnone, pure, Except.pure]
  rw [Check.date_eq_ok] at ha hb
  have horder : (∀ first last a b, r.startDate = some first → r.endDate = some last →
      Date.ofIso? first = some a → Date.ofIso? last = some b → b.before a = false) ↔
      b.before a = false := by
    refine ⟨fun h => h first last a b hfirst hlast ha hb, ?_⟩
    rintro h first' last' a' b' hfirst' hlast' ha' hb'
    cases hfirst.symm.trans hfirst'
    cases hlast.symm.trans hlast'
    cases ha.symm.trans ha'
    cases hb.symm.trans hb'
    exact h
  rw [horder]
  dsimp only
  cases b.before a
  · exact ⟨fun _ => rfl, fun _ => rfl⟩
  · exact ⟨nofun, nofun⟩

lemma validate_eq_ok {r : Request} : r.validate = .ok () ↔ r.Valid := by
  unfold validate
  dsimp only
  constructor
  · intro h
    obtain ⟨_, hid, h⟩ := bind_eq_ok.1 h
    obtain ⟨_, hmailbox, h⟩ := bind_eq_ok.1 h
    obtain ⟨_, hlimit, h⟩ := bind_eq_ok.1 h
    obtain ⟨_, hdays, h⟩ := bind_eq_ok.1 h
    obtain ⟨_, hsnippet, h⟩ := bind_eq_ok.1 h
    obtain ⟨hsnippets, h⟩ := passed_eq_ok.1 h
    obtain ⟨_, htexts, h⟩ := bind_eq_ok.1 h
    obtain ⟨hcursor, h⟩ := passed_eq_ok.1 h
    obtain ⟨hspan, h⟩ := passed_eq_ok.1 h
    obtain ⟨start, hstart, h⟩ := bind_eq_ok.1 h
    obtain ⟨stop, hstop, h⟩ := bind_eq_ok.1 h
    refine ⟨hid, hmailbox, Check.range_eq_ok.1 hlimit, discard_range_eq_ok.1 hdays,
      discard_range_eq_ok.1 hsnippet, forM_searchText_eq_ok.1 htexts,
      List.forall_mem_append.2 ⟨exists_date.1 ⟨start, hstart⟩, exists_date.1 ⟨stop, hstop⟩⟩,
      ?_, ?_, ?_, (datesReversed_eq_ok hstart hstop).1 h⟩
    · exact fun hsome => by simpa [hsome] using hsnippets
    · simpa using hcursor
    · simpa using hspan
  · rintro ⟨hid, hmailbox, hlimit, hdays, hsnippet, htexts, hdates, hsnippets, hcursor, hspan,
      horder⟩
    obtain ⟨hfirst, hlast⟩ := List.forall_mem_append.1 hdates
    obtain ⟨start, hstart⟩ := exists_date.2 hfirst
    obtain ⟨stop, hstop⟩ := exists_date.2 hlast
    refine bind_eq_ok.2 ⟨(), hid, bind_eq_ok.2 ⟨(), hmailbox, ?_⟩⟩
    refine bind_eq_ok.2 ⟨(), Check.range_eq_ok.2 hlimit, ?_⟩
    refine bind_eq_ok.2 ⟨(), discard_range_eq_ok.2 hdays, ?_⟩
    refine bind_eq_ok.2 ⟨(), discard_range_eq_ok.2 hsnippet, passed_eq_ok.2 ⟨?_, ?_⟩⟩
    · simpa using hsnippets
    refine bind_eq_ok.2 ⟨(), forM_searchText_eq_ok.2 htexts, passed_eq_ok.2 ⟨?_, ?_⟩⟩
    · simpa using hcursor
    refine passed_eq_ok.2 ⟨?_, ?_⟩
    · simpa using hspan
    exact bind_eq_ok.2 ⟨start, hstart, bind_eq_ok.2 ⟨stop, hstop,
      (datesReversed_eq_ok hstart hstop).2 horder⟩⟩

lemma shifted_ne (d : Date) (n : Int) {f : Failure} (hf : f ≠ .escaped .dateOutOfRange) :
    shifted d n ≠ .error f := by
  unfold shifted
  split
  · exact nofun
  · exact fun h => hf (Except.error.inj h).symm

/-- The dates of a valid request can be read, so that its criteria fail only where the calendar
ends. -/
lemma Valid.criteria_ne {r : Request} (h : r.Valid) (today : Date) {f : Failure}
    (hf : f ≠ .escaped .dateOutOfRange) : r.criteria today ≠ .error f := by
  have hdate : ∀ s ∈ (Command.search r).dates, ∀ field, dateOf s field ≠ .error f := by
    intro s hs field
    obtain ⟨d, hd⟩ := h.dates s hs
    unfold dateOf
    rw [Check.date_eq_ok.2 hd]
    exact nofun
  have hsince : ∀ n : Int, (shifted today (-n)).map some ≠ .error f :=
    fun n => map_ne_error (shifted_ne _ _ hf)
  have hstart : ∀ s, r.startDate = some s → (dateOf s "start_date").map some ≠ .error f :=
    fun s hs => map_ne_error (hdate s (by simp [Command.dates, hs]) _)
  have hstop : ∀ s, r.endDate = some s →
      ((dateOf s "end_date").bind fun d => (shifted d 1).map some) ≠ .error f :=
    fun s hs => bind_ne_error (hdate s (by simp [Command.dates, hs]) _)
      fun _ _ => map_ne_error (shifted_ne _ _ hf)
  refine map_ne_error ?_
  unfold keys
  -- Each of the three dates is given or not, and what is not given cannot fail.
  cases r.lastDays <;> cases hfirst : r.startDate <;> cases hlast : r.endDate <;>
    refine bind_ne_error ?_ fun _ _ => bind_ne_error ?_ fun _ _ => bind_ne_error ?_ fun _ _ =>
      ok_ne_error
  all_goals
    first
    | exact ok_ne_error
    | exact hsince _
    | exact hstart _ hfirst
    | exact hstop _ hlast

end Search.Request

namespace Command

section Sound

variable {σ : Type} {st : Settings} {v : Service σ} {a m b : String}

lemma checkReading_eq_ok {o : ReadOptions} {n : Int} :
    Service.checkReading a o = .ok n ↔
      Check.accountId a = .ok () ∧ (100 ≤ o.bodyMaxChars ∧ o.bodyMaxChars ≤ 20000) ∧
        (o.attachmentMaxChars.isSome → o.extractText) ∧
        (100 ≤ o.attachmentMaxChars.getD 10000 ∧ o.attachmentMaxChars.getD 10000 ≤ 50000) ∧
        o.attachmentMaxChars.getD 10000 = n := by
  unfold Service.checkReading
  simp [bind_eq_ok, passed_eq_ok, exists_unit_eq_ok, Check.range_eq_ok, pure, Except.pure]

lemma checkSource_eq_ok {n : Int} :
    Service.checkSource a n = .ok () ↔
      Check.accountId a = .ok () ∧ 1024 ≤ n ∧ n ≤ 1000000 := by
  unfold Service.checkSource
  simp [bind_eq_ok, exists_unit_eq_ok, Check.range_eq_ok]

lemma checkChange_eq_ok :
    v.checkChange a = .ok () ↔ v.settings.writeEnabled ∧ Check.accountId a = .ok () := by
  unfold Service.checkChange
  simp [bind_eq_ok, exists_unit_eq_ok, Check.writesEnabled_eq_ok]

lemma checkFlags_eq_ok {add remove : Option (List String)} {fs : List String × List String} :
    Service.checkFlags add remove = .ok fs ↔ fs = (add.getD [], remove.getD []) ∧
      (∀ f ∈ add.getD [] ++ remove.getD [], Check.flag f = .ok ()) ∧
        (add.getD [] ≠ [] ∨ remove.getD [] ≠ []) := by
  have hsome : ¬ ((add.getD []).isEmpty && (remove.getD []).isEmpty) ↔
      add.getD [] ≠ [] ∨ remove.getD [] ≠ [] := by
    simp [Decidable.imp_iff_not_or]
  rw [List.forall_mem_append]
  unfold Service.checkFlags
  simp only [bind_eq_ok, passed_eq_ok, Check.flags_eq_ok]
  constructor
  · rintro ⟨_, ⟨rfl, hadd⟩, _, ⟨rfl, hremove⟩, hflags, ⟨⟩⟩
    exact ⟨rfl, ⟨hadd, hremove⟩, hsome.1 hflags⟩
  · rintro ⟨rfl, ⟨hadd, hremove⟩, hflags⟩
    exact ⟨_, ⟨rfl, hadd⟩, _, ⟨rfl, hremove⟩, hsome.2 hflags, rfl⟩

lemma exists_checkFlags {add remove : Option (List String)} :
    (∃ fs, Service.checkFlags add remove = .ok fs) ↔
      (∀ f ∈ add.getD [] ++ remove.getD [], Check.flag f = .ok ()) ∧
        (add.getD [] ≠ [] ∨ remove.getD [] ≠ []) := by
  simp only [checkFlags_eq_ok, exists_eq_left]

lemma sound_listAccounts : Command.listAccounts.Sound st := by
  simp [sound_iff]

lemma sound_verifyAccount_iff : (Command.verifyAccount a).Sound st ↔
    Check.accountId a = .ok () ∧ ∃ account, st.account a = .ok account := by
  simp [sound_iff]

lemma sound_listMailboxes_iff : (Command.listMailboxes a).Sound st ↔
    Check.accountId a = .ok () ∧ ∃ account, st.account a = .ok account := by
  simp [sound_iff]

lemma sound_search_iff {r : Search.Request} : (Command.search r).Sound st ↔
    r.validate = .ok () ∧ ∃ account, st.account r.accountId = .ok account := by
  have hnumbers : (∀ x ∈ (Command.search r).numbers, x.2.1 ≤ x.1 ∧ x.1 ≤ x.2.2) ↔
      (1 ≤ r.limit ∧ r.limit ≤ 50) ∧ (∀ n ∈ r.lastDays.toList, 1 ≤ n ∧ n ≤ 365) ∧
        ∀ n ∈ r.snippetMaxChars.toList, 50 ≤ n ∧ n ≤ 500 := by
    dsimp only [numbers]
    cases r.lastDays <;> cases r.snippetMaxChars <;> simp
  rw [Search.Request.validate_eq_ok]
  constructor
  · intro h
    obtain ⟨hlimit, hdays, hsnippet⟩ := hnumbers.1 h.numbers
    exact ⟨⟨h.accountIds _ (List.mem_singleton_self _), h.mailboxes _ (List.mem_singleton_self _),
      hlimit, hdays, hsnippet, h.searchTexts, h.dates, h.coherent⟩,
      h.configured _ (List.mem_singleton_self _)⟩
  · rintro ⟨h, haccount⟩
    exact ⟨nofun, List.forall_mem_singleton.2 h.accountId, List.forall_mem_singleton.2 haccount,
      List.forall_mem_singleton.2 h.mailbox, nofun, hnumbers.2 ⟨h.limit, h.lastDays, h.snippet⟩,
      h.searchTexts, h.dates, nofun, h.coherent⟩

lemma sound_readMessage_iff {o : ReadOptions} : (Command.readMessage a m o).Sound st ↔
    (∃ n, Service.checkReading a o = .ok n) ∧ (∃ id, MessageId.parseFor a m = .ok id) ∧
      ∃ account, st.account a = .ok account := by
  simp [sound_iff, checkReading_eq_ok]
  tauto

lemma sound_readSource_iff {n : Int} : (Command.readSource a m n).Sound st ↔
    Service.checkSource a n = .ok () ∧ (∃ id, MessageId.parseFor a m = .ok id) ∧
      ∃ account, st.account a = .ok account := by
  simp [sound_iff, checkSource_eq_ok]
  tauto

lemma sound_updateFlags_iff {add remove : Option (List String)} :
    (Command.updateFlags a m add remove).Sound v.settings ↔
      v.checkChange a = .ok () ∧ (∃ fs, Service.checkFlags add remove = .ok fs) ∧
        (∃ id, MessageId.parseFor a m = .ok id) ∧
        ∃ account, v.settings.account a = .ok account := by
  rw [exists_checkFlags]
  simp [sound_iff, checkChange_eq_ok]
  tauto

lemma sound_copy_iff {d : Option String} : (Command.copy a m b d).Sound v.settings ↔
    v.checkChange a = .ok () ∧ (∃ id, MessageId.parseFor a m = .ok id) ∧
      Check.mailbox b = .ok () ∧ Check.accountId (d.getD a) = .ok () ∧
      (∃ account, v.settings.account a = .ok account) ∧
      ∃ destination, v.settings.account (d.getD a) = .ok destination := by
  simp [sound_iff, checkChange_eq_ok]
  tauto

lemma sound_move_iff : (Command.move a m b).Sound v.settings ↔
    v.checkChange a = .ok () ∧ (∃ id, MessageId.parseFor a m = .ok id) ∧
      Check.mailbox b = .ok () ∧ ∃ account, v.settings.account a = .ok account := by
  simp [sound_iff, checkChange_eq_ok]
  tauto

lemma sound_delete_iff {confirmed : Bool} : (Command.delete a m confirmed).Sound v.settings ↔
    v.checkChange a = .ok () ∧ confirmed ∧ (∃ id, MessageId.parseFor a m = .ok id) ∧
      ∃ account, v.settings.account a = .ok account := by
  simp [sound_iff, checkChange_eq_ok]
  tauto

end Sound

end Command

end Mailroom
