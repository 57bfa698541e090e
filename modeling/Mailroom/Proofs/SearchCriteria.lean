import Mailroom.Proofs.DayNumbers
import Mailroom.Proofs.SoundCommands

/-!
# What a search selects

A valid request has criteria unless its last day is the last of the calendar. Criteria are read key
by key, each key followed by its argument, and a message that meets all keys is one that the request
asks for.
-/

namespace Mailroom.Search

/-! ## Reading criteria -/

def readKeys? : List Atom → Option (List Key)
  | [] => some []
  | .word "TEXT" :: .word s :: rest => (readKeys? rest).map (.text s :: ·)
  | .word "FROM" :: .word s :: rest => (readKeys? rest).map (.sender s :: ·)
  | .word "TO" :: .word s :: rest => (readKeys? rest).map (.recipient s :: ·)
  | .word "SUBJECT" :: .word s :: rest => (readKeys? rest).map (.subject s :: ·)
  | .word "UNSEEN" :: rest => (readKeys? rest).map (.unseen :: ·)
  | .word "SINCE" :: .date d :: rest => (readKeys? rest).map (.since d :: ·)
  | .word "BEFORE" :: .date d :: rest => (readKeys? rest).map (.before d :: ·)
  | .word "ALL" :: rest => (readKeys? rest).map (.all :: ·)
  | _ => none

/-- An argument is never taken for a key, even if it spells one. -/
lemma readKeys?_atoms (ks : List Key) : readKeys? (atoms ks) = some ks := by
  induction ks with
  | nil => rfl
  | cons k ks ih =>
    rw [atoms] at ih
    rw [atoms, List.flatMap_cons]
    cases k <;> simp [Key.atoms, readKeys?, ih]

/-- A message as a search sees it: its date, whether it was seen, and the texts that are found in
each of its places. -/
structure Candidate where
  date : Date
  seen : Bool
  holds : String → Prop
  sentBy : String → Prop
  sentTo : String → Prop
  isAbout : String → Prop

def Key.Matches (m : Candidate) : Key → Prop
  | text s => m.holds s
  | sender s => m.sentBy s
  | recipient s => m.sentTo s
  | subject s => m.isAbout s
  | unseen => m.seen = false
  | since d => m.date.before d = false
  | before d => m.date.before d = true
  | all => True

namespace Request

/-- The messages that a request asks for on some day. Its first and last day belong to the time that
it asks for. -/
@[mk_iff]
structure Wants (r : Request) (today : Date) (m : Candidate) : Prop where
  query : ∀ s, r.query = some s → m.holds s
  sender : ∀ s, r.sender = some s → m.sentBy s
  recipient : ∀ s, r.recipient = some s → m.sentTo s
  subject : ∀ s, r.subject = some s → m.isAbout s
  unread : r.unreadOnly = some true → m.seen = false
  recent : ∀ n, r.lastDays = some n → (today.ordinal : Int) - n ≤ m.date.ordinal
  first : ∀ s, r.startDate = some s → ∃ d, Date.ofIso? s = some d ∧ m.date.before d = false
  last : ∀ s, r.endDate = some s → ∃ d, Date.ofIso? s = some d ∧ d.before m.date = false

/-! ## The dates of criteria -/

lemma dateOf_eq_ok {s field : String} {d : Date} :
    dateOf s field = .ok d ↔ Date.ofIso? s = some d := by
  unfold dateOf Check.date
  cases Date.ofIso? s <;> simp [Except.mapError]

lemma shifted_eq_ok {d e : Date} {n : Int} :
    shifted d n = .ok e ↔ (e.ordinal : Int) = d.ordinal + n := by
  rw [← Date.addDays?_eq_some_iff, shifted]
  cases d.addDays? n <;> simp

/-- The three dates that the keys of a request name, each if the request does. -/
@[mk_iff]
structure Dates (r : Request) (today : Date) (since start stop : Option Date) : Prop where
  since : Option.Rel (fun n (d : Date) => (d.ordinal : Int) = today.ordinal - n) r.lastDays since
  start : Option.Rel (fun s d => Date.ofIso? s = some d) r.startDate start
  stop : Option.Rel (fun s (d : Date) => ∃ e, Date.ofIso? s = some e ∧ d.ordinal = e.ordinal + 1)
    r.endDate stop

/-- The keys for what a request gives, with the dates of those that name one. -/
def given (r : Request) (since start stop : Option Date) : List Key :=
  (r.query.map Key.text).toList ++ (r.sender.map Key.sender).toList ++
    (r.recipient.map Key.recipient).toList ++ (r.subject.map Key.subject).toList ++
    (if r.unreadOnly = some true then [Key.unseen] else []) ++
    (since.map Key.since).toList ++ (start.map Key.since).toList ++
    (stop.map Key.before).toList

def orAll (ks : List Key) : List Key :=
  if ks.isEmpty then [Key.all] else ks

lemma keys_eq (r : Request) (today : Date) : r.keys today = (do
    let since ← r.lastDays.mapM fun n => shifted today (-n)
    let start ← r.startDate.mapM (dateOf · "start_date")
    let stop ← r.endDate.mapM fun s => (dateOf s "end_date").bind (shifted · 1)
    return orAll (r.given since start stop)) := by
  have hstop : ∀ s, ((dateOf s "end_date").bind fun d => (shifted d 1).map some) =
      ((dateOf s "end_date").bind (shifted · 1)).map some := by
    intro s
    cases dateOf s "end_date" <;> rfl
  unfold keys
  simp only [hstop]
  cases r.lastDays <;> cases r.startDate <;> cases r.endDate <;> rfl

lemma keys_eq_ok {r : Request} {today : Date} {ks : List Key} : r.keys today = .ok ks ↔
    ∃ since start stop, r.Dates today since start stop ∧ ks = orAll (r.given since start stop) := by
  have hstop : ∀ s d, ((dateOf s "end_date").bind (shifted · 1)) = .ok d ↔
      ∃ e, Date.ofIso? s = some e ∧ d.ordinal = e.ordinal + 1 := by
    intro s d
    have hbind := bind_eq_ok (x := dateOf s "end_date") (f := (shifted · 1)) (b := d)
    simp only [dateOf_eq_ok, shifted_eq_ok] at hbind
    refine hbind.trans (exists_congr fun e => and_congr_right fun _ => ?_)
    omega
  simp only [keys_eq, bind_eq_ok, option_mapM_eq_ok, shifted_eq_ok, dateOf_eq_ok, hstop,
    dates_iff, pure, Except.pure, Except.ok.injEq, Int.sub_eq_add_neg]
  constructor
  · rintro ⟨since, hsince, start, hstart, stop, hstop, rfl⟩
    exact ⟨since, start, stop, ⟨hsince, hstart, hstop⟩, rfl⟩
  · rintro ⟨since, start, stop, ⟨hsince, hstart, hstop⟩, rfl⟩
    exact ⟨since, hsince, start, hstart, stop, hstop, rfl⟩

lemma criteria_eq_ok {r : Request} {today : Date} {as : List Atom} : r.criteria today = .ok as ↔
    ∃ since start stop, r.Dates today since start stop ∧
      as = atoms (orAll (r.given since start stop)) := by
  have hmap : r.criteria today = .ok as ↔ ∃ ks, r.keys today = .ok ks ∧ as = atoms ks := by
    unfold criteria
    cases r.keys today <;> simp [Except.map, eq_comm]
  simp only [hmap, keys_eq_ok]
  constructor
  · rintro ⟨_, ⟨since, start, stop, hdates, rfl⟩, rfl⟩
    exact ⟨since, start, stop, hdates, rfl⟩
  · rintro ⟨since, start, stop, hdates, rfl⟩
    exact ⟨_, ⟨since, start, stop, hdates, rfl⟩, rfl⟩

/-! ## Which requests have criteria -/

lemma exists_rel_iff {α β : Type} {R : α → β → Prop} {v : Option α} :
    (∃ o, Option.Rel R v o) ↔ ∀ a, v = some a → ∃ b, R a b := by
  cases v with
  | none => simpa using ⟨none, .none⟩
  | some a =>
    constructor
    · rintro ⟨_, h | _⟩ _ ⟨⟩
      exact ⟨_, h⟩
    · intro h
      obtain ⟨b, hb⟩ := h a rfl
      exact ⟨some b, .some hb⟩

lemma exists_criteria_iff {r : Request} {today : Date} : (∃ as, r.criteria today = .ok as) ↔
    (∀ n, r.lastDays = some n → ∃ d : Date, (d.ordinal : Int) = today.ordinal - n) ∧
    (∀ s, r.startDate = some s → ∃ d, Date.ofIso? s = some d) ∧
    ∀ s, r.endDate = some s → ∃ d : Date, ∃ e, Date.ofIso? s = some e ∧
      d.ordinal = e.ordinal + 1 := by
  simp only [← exists_rel_iff, criteria_eq_ok, dates_iff]
  constructor
  · rintro ⟨_, since, start, stop, ⟨hsince, hstart, hstop⟩, -⟩
    exact ⟨⟨since, hsince⟩, ⟨start, hstart⟩, stop, hstop⟩
  · rintro ⟨⟨since, hsince⟩, ⟨start, hstart⟩, stop, hstop⟩
    exact ⟨_, since, start, stop, ⟨hsince, hstart, hstop⟩, rfl⟩

/-- From the second year of the calendar on, a request that passes its checks has criteria exactly
if its last day is not the last of the calendar. Without criteria it is the calendar that ends. -/
theorem criteria_built_iff {r : Request} {today : Date} (h : r.validate = .ok ())
    (htoday : 2 ≤ today.year) :
    ((∃ as, r.criteria today = .ok as) ↔
      ∀ s, r.endDate = some s → Date.ofIso? s ≠ some Date.last) ∧
    ∀ f, r.criteria today = .error f → f = .escaped .dateOutOfRange := by
  have hvalid := validate_eq_ok.1 h
  have hdates := hvalid.dates
  simp only [Command.dates, List.mem_append, Option.mem_toList] at hdates
  constructor
  · rw [exists_criteria_iff]
    constructor
    · rintro ⟨-, -, hstop⟩ s hs hlast
      obtain ⟨d, e, he, hd⟩ := hstop s hs
      obtain rfl := Option.some.inj (he.symm.trans hlast)
      exact Date.exists_dayAfter_iff.1 ⟨d, hd⟩ rfl
    · intro hlast
      refine ⟨fun n hn => ?_, fun s hs => hdates s (.inl hs), fun s hs => ?_⟩
      · have hrange := hvalid.lastDays n (by simp [hn])
        exact Date.exists_daysBefore htoday (by omega) hrange.2
      · obtain ⟨e, he⟩ := hdates s (.inr hs)
        obtain ⟨d, hd⟩ := Date.exists_dayAfter_iff.2 fun h => hlast s hs (h ▸ he)
        exact ⟨d, e, he, hd⟩
  · intro f hf
    by_contra hne
    exact hvalid.criteria_ne today hne hf

/-- A search of the mail of four years, up to the last day but one of the calendar. -/
def farAhead : Request where
  mailbox := "INBOX"
  accountId := "a"
  cursor := none
  query := none
  sender := none
  recipient := none
  subject := none
  unreadOnly := none
  lastDays := none
  startDate := some "9996-02-29"
  endDate := some "9999-12-30"
  limit := 10
  includeSnippet := false
  snippetMaxChars := none

theorem criteria_built_iff_of_farAhead : farAhead.validate = .ok () ∧
    ∃ as, farAhead.criteria ⟨2, 1, 1, by decide⟩ = .ok as := by
  have hvalid : farAhead.validate = .ok () := by decide
  refine ⟨hvalid, (criteria_built_iff hvalid (by decide)).1.2 ?_⟩
  rintro s hs
  obtain rfl := Option.some.inj hs
  decide

/-- With a day more there is no date to search before. -/
theorem criteria_not_built : { farAhead with endDate := some "9999-12-31" }.validate = .ok () ∧
    { farAhead with endDate := some "9999-12-31" }.criteria ⟨2026, 1, 20, by decide⟩ =
      .error (.escaped .dateOutOfRange) := by
  decide

/-! ## Which messages meet the criteria -/

section Meeting

variable {m : Candidate} {r : Request} {today : Date} {since start stop : Option Date}

lemma forall_mem_orAll {ks : List Key} :
    (∀ k ∈ orAll ks, k.Matches m) ↔ ∀ k ∈ ks, k.Matches m := by
  unfold orAll
  cases ks with
  | nil => simp [Key.Matches]
  | cons k ks => simp

lemma atoms_orAll_ne_nil (ks : List Key) : atoms (orAll ks) ≠ [] := by
  unfold orAll
  cases ks with
  | nil => simp [atoms, Key.atoms]
  | cons k ks => cases k <;> simp [atoms, Key.atoms]

lemma forall_mem_given : (∀ k ∈ r.given since start stop, k.Matches m) ↔
    (∀ s, r.query = some s → m.holds s) ∧ (∀ s, r.sender = some s → m.sentBy s) ∧
    (∀ s, r.recipient = some s → m.sentTo s) ∧ (∀ s, r.subject = some s → m.isAbout s) ∧
    (r.unreadOnly = some true → m.seen = false) ∧
    (∀ d, since = some d → m.date.before d = false) ∧
    (∀ d, start = some d → m.date.before d = false) ∧
    ∀ d, stop = some d → m.date.before d = true := by
  have hunseen : (∀ k ∈ if r.unreadOnly = some true then [Key.unseen] else [], k.Matches m) ↔
      (r.unreadOnly = some true → m.seen = false) := by
    by_cases hunread : r.unreadOnly = some true <;> simp [hunread, Key.Matches]
  have hgiven : ∀ {α : Type} (v : Option α) (key : α → Key),
      (∀ k ∈ (v.map key).toList, k.Matches m) ↔ ∀ a, v = some a → (key a).Matches m := by
    intro α v key
    cases v <;> simp
  simp only [given, List.forall_mem_append, hgiven, hunseen, and_assoc]
  rfl

/-- A message is late enough for the first key with a date if it is for the request's days. -/
lemma Dates.forall_since (h : r.Dates today since start stop) :
    (∀ d, since = some d → m.date.before d = false) ↔
      ∀ n, r.lastDays = some n → (today.ordinal : Int) - n ≤ m.date.ordinal := by
  have hsince := h.since
  generalize r.lastDays = v at hsince ⊢
  cases hsince with
  | some hday =>
    simp only [Option.some.injEq, forall_eq', Date.not_before_iff]
    omega
  | none => simp

lemma Dates.forall_start (h : r.Dates today since start stop) :
    (∀ d, start = some d → m.date.before d = false) ↔
      ∀ s, r.startDate = some s → ∃ d, Date.ofIso? s = some d ∧ m.date.before d = false := by
  have hstart := h.start
  generalize r.startDate = v at hstart ⊢
  cases hstart with
  | some hread => simp [hread]
  | none => simp

/-- To be before the day after the last one is not to be after the last one. -/
lemma Dates.forall_stop (h : r.Dates today since start stop) :
    (∀ d, stop = some d → m.date.before d = true) ↔
      ∀ s, r.endDate = some s → ∃ d, Date.ofIso? s = some d ∧ d.before m.date = false := by
  have hstop := h.stop
  generalize r.endDate = v at hstop ⊢
  cases hstop with
  | some hnext =>
    obtain ⟨e, hread, hnext⟩ := hnext
    simp only [Option.some.injEq, forall_eq', hread, exists_eq_left', Date.before_iff,
      Date.not_before_iff]
    omega
  | none => simp

/-- Criteria name at least one key, and a message meets all keys that they name exactly if the
request asks for it. -/
theorem criteria_select {as : List Atom} (h : r.criteria today = .ok as) :
    as ≠ [] ∧ ∃ ks, readKeys? as = some ks ∧
      ∀ m : Candidate, (∀ k ∈ ks, k.Matches m) ↔ r.Wants today m := by
  obtain ⟨since, start, stop, hdates, rfl⟩ := criteria_eq_ok.1 h
  refine ⟨atoms_orAll_ne_nil _, _, readKeys?_atoms _, fun m => ?_⟩
  rw [forall_mem_orAll, forall_mem_given, hdates.forall_since, hdates.forall_start,
    hdates.forall_stop, wants_iff]

end Meeting

/-- A search of the unread mail of the day before a leap day, for a text that spells a key. -/
def beforeLeapDay : Request :=
  { farAhead with
    query := some "UNSEEN"
    unreadOnly := some true
    startDate := some "2024-02-28"
    endDate := some "2024-02-28" }

def beforeLeapDayAtoms : List Atom :=
  [.word "TEXT", .word "UNSEEN", .word "UNSEEN", .word "SINCE", .date ⟨2024, 2, 28, by decide⟩,
    .word "BEFORE", .date ⟨2024, 2, 29, by decide⟩]

theorem criteria_select_of_beforeLeapDay :
    beforeLeapDay.criteria ⟨2026, 1, 20, by decide⟩ = .ok beforeLeapDayAtoms ∧
    ∃ ks, readKeys? beforeLeapDayAtoms = some ks ∧ ∀ m : Candidate,
      (∀ k ∈ ks, k.Matches m) ↔ beforeLeapDay.Wants ⟨2026, 1, 20, by decide⟩ m := by
  have hcriteria : beforeLeapDay.criteria ⟨2026, 1, 20, by decide⟩ = .ok beforeLeapDayAtoms := by
    decide +kernel
  exact ⟨hcriteria, (criteria_select hcriteria).2⟩

end Request

end Mailroom.Search
