import Mailroom.Imap.Script
import Mailroom.Proofs.TraceGrowth

/-!
# Items of a fetched message

A server tells of a message what it likes, asked for or not and in any order. The flags come of the
one item of that name, and nothing else changes them. The body comes of the first item that is named
like a section or like a whole message: that is the section, unless an item of the other sort comes
first with another value.
-/

namespace Mailroom.Imap

namespace Items

variable {items items' : Items} {v : Value} {t : Token}

/-- Whether a name is that of a section of a body. -/
def isSectionName : Token → Bool
  | .octets s => (ascii "BODY[").isPrefixOf s
  | _ => false

/-- Whether a name begins like that of a whole message, as the name of its size does. -/
def isMessageName : Token → Bool
  | .octets s => (ascii "RFC822").isPrefixOf s
  | _ => false

def flagsName : Token :=
  .octets (ascii "FLAGS")

/-- Exactly one item is a section, and this is its value. -/
def TellsSection (items : Items) (v : Value) : Prop :=
  (items.filter fun i => isSectionName i.1).map (·.2) = [v]

/-- An item that is named like a whole message comes before all sections, with another value. -/
def Overshadows (items : Items) (v : Value) : Prop :=
  ∃ before i after, items = before ++ i :: after ∧
    (∀ j ∈ before, isSectionName j.1 = false ∧ isMessageName j.1 = false) ∧
    isMessageName i.1 = true ∧ i.2 ≠ v

/-- Each name is that of one item. -/
def Distinct (items : Items) : Prop :=
  (items.map Prod.fst).Nodup

lemma isBodyName_eq (t : Token) : isBodyName t = (isSectionName t || isMessageName t) := by
  cases t <;> rfl

/-- The item of which the body comes, if there is one. -/
def bodyItem? (items : Items) : Option (Token × Value) :=
  List.find? (fun i => isBodyName i.1) items

lemma body?_eq_of_bodyItem? {i : Token × Value} (h : items.bodyItem? = some i) :
    items.body? = if i.2 = .missing then none else some i.2 := by
  obtain ⟨t, v⟩ := i
  unfold bodyItem? at h
  unfold body?
  rw [h]
  cases v <;> simp

lemma overshadows_iff : items.Overshadows v ↔
    ∃ i, items.bodyItem? = some i ∧ isMessageName i.1 = true ∧ i.2 ≠ v := by
  unfold bodyItem? Overshadows
  simp only [List.find?_eq_some_iff_append, isBodyName_eq]
  constructor
  · rintro ⟨before, i, after, hitems, hbefore, hname, hvalue⟩
    refine ⟨i, ⟨by rw [hname, Bool.or_true], before, after, hitems, fun j hj => ?_⟩, hname, hvalue⟩
    obtain ⟨hsection, hmessage⟩ := hbefore j hj
    rw [hsection, hmessage]
    rfl
  · rintro ⟨i, ⟨-, before, after, hitems, hbefore⟩, hname, hvalue⟩
    exact ⟨before, i, after, hitems, fun j hj => by simpa using hbefore j hj, hname, hvalue⟩

/-- If a section is told, an item is taken for the body: the section, or one that overshadows it if
its value is another. -/
lemma exists_bodyItem? (h : items.TellsSection v) :
    ∃ i, items.bodyItem? = some i ∧ (i.2 = v ↔ ¬ items.Overshadows v) := by
  obtain ⟨a, ha, rfl⟩ := List.map_eq_singleton_iff.1 h
  have honly : ∀ i, i ∈ items ∧ isSectionName i.1 = true ↔ i = a := by
    intro i
    rw [← List.mem_filter (p := fun i : Token × Value => isSectionName i.1), ha, List.mem_singleton]
  obtain ⟨hin, hsection⟩ := (honly a).2 rfl
  have hsome : items.bodyItem?.isSome :=
    List.find?_isSome.2 ⟨a, hin, by rw [isBodyName_eq, hsection, Bool.true_or]⟩
  obtain ⟨i, hi⟩ := Option.isSome_iff_exists.1 hsome
  have hname : isSectionName i.1 = true ∨ isMessageName i.1 = true := by
    have hbody := List.find?_some hi
    rwa [isBodyName_eq, Bool.or_eq_true] at hbody
  refine ⟨i, hi, ?_⟩
  rw [overshadows_iff]
  constructor
  · rintro hvalue ⟨i', hi', -, hvalue'⟩
    obtain rfl := Option.some.inj (hi.symm.trans hi')
    exact hvalue' hvalue
  · intro hclear
    rcases hname with hs | hm
    · rw [(honly i).1 ⟨List.mem_of_find?_eq_some hi, hs⟩]
    · by_contra hvalue
      exact hclear ⟨i, hi, hm, hvalue⟩

lemma find?_eq_some_iff (h : items.Distinct) (name : String) :
    items.find? name = some v ↔ (.octets (ascii name), v) ∈ items := by
  unfold find?
  rw [Option.map_eq_some_iff]
  simp only [find?_key_eq_some h]
  constructor
  · rintro ⟨⟨t, v'⟩, ⟨hmem, rfl⟩, rfl⟩
    exact hmem
  · exact fun hmem => ⟨_, ⟨hmem, rfl⟩, rfl⟩

lemma flags_eq_of_find?_eq (h : items.find? "FLAGS" = items'.find? "FLAGS") :
    items.flags = items'.flags := by
  unfold flags
  rw [h]

end Items

/-- What a value comes to where one is needed: none at all is refused. -/
def Value.orRefuse (e : Error) : Value → Except Failure Value
  | .missing => .error (.refused e)
  | v => .ok v

lemma Value.orRefuse_eq_ite (e : Error) (v : Value) :
    v.orRefuse e = if v = .missing then .error (.refused e) else .ok v := by
  cases v <;> simp [orRefuse]

lemma Value.orRefuse_inj {e : Error} {v v' : Value} : v.orRefuse e = v'.orRefuse e ↔ v = v' := by
  cases v <;> cases v' <;> simp [orRefuse]

namespace Session

open Mailroom.Task

variable {σ : Type} {p : Peer σ} {s : Session} {w : World σ} {uid : Int}
variable {found : List (Int × Items)} {items items' : Items} {v : Value}

/-- A reply to a fetch tells of each message once and gives each item of a message one name. -/
structure WellNamed (found : List (Int × Items)) : Prop where
  uids : (found.map Prod.fst).Nodup
  items : ∀ x ∈ found, x.2.Distinct

/-- The other side replies this to a call. -/
def Replies (p : Peer σ) (s : Session) (w : World σ) (c : Call) (r : c.Reply) : Prop :=
  (p.answer s.client c w.remote).outcome = .ok r

lemma itemsOf_eq_some (h : WellNamed found) (hmem : (uid, items) ∈ found) :
    itemsOf uid found = some items := by
  unfold itemsOf
  rw [(find?_key_eq_some h.uids).2 ⟨hmem, rfl⟩]
  rfl

lemma runIn_fetch {is : List FetchItem} (hw : s.client ∉ w.abandoned)
    (hreply : Replies p s w (.fetch uid is) found) (hitems : itemsOf uid found = some items) :
    runIn w (s.fetch p uid is) = (.ok items, asked p s.client (.fetch uid is) w) := by
  have hissue : runIn w (s.issue p "UID FETCH" (.fetch uid is)) =
      (.ok found, asked p s.client (.fetch uid is) w) := by
    rw [runIn_issue, if_neg (mt List.contains_iff_mem.1 hw), hreply]
  unfold fetch
  rw [runIn_bind_ok hissue]
  obtain ⟨⟨n, is'⟩, hfind, rfl⟩ := Option.map_eq_some_iff.1 hitems
  rw [hfind]
  rfl

/-- What fetching a message comes to, as its items tell. -/
structure Fetched (p : Peer σ) (s : Session) (w : World σ) (uid : Int)
    (found : List (Int × Items)) (items : Items) : Prop where
  source : ∀ v, items.TellsSection v → Replies p s w (.fetch uid [.source]) found →
    ((runIn w (s.fetchSource p uid)).1 = v.orRefuse .noBody ↔ ¬ items.Overshadows v)
  header : ∀ v, items.TellsSection v → Replies p s w (.fetch uid [.flags, .headerFields]) found →
    ((runIn w (s.fetchHeader p uid)).1 = (v.orRefuse .noHeaders).map (·, items.flags) ↔
      ¬ items.Overshadows v)
  headerFlags : Replies p s w (.fetch uid [.flags, .headerFields]) found →
    ∀ header fs, (runIn w (s.fetchHeader p uid)).1 = .ok (header, fs) → fs = items.flags
  flags : Replies p s w (.fetch uid [.flags]) found →
    (runIn w (s.fetchFlags p uid)).1 = .ok items.flags

lemma runIn_fetchSource {i : Token × Value} (hw : s.client ∉ w.abandoned)
    (hreply : Replies p s w (.fetch uid [.source]) found)
    (hitems : itemsOf uid found = some items) (hi : items.bodyItem? = some i) :
    (runIn w (s.fetchSource p uid)).1 = i.2.orRefuse .noBody := by
  unfold fetchSource
  rw [runIn_bind_ok (runIn_fetch hw hreply hitems), Items.body?_eq_of_bodyItem? hi,
    Value.orRefuse_eq_ite]
  by_cases hv : i.2 = .missing
  · rw [if_pos hv, if_pos hv]
    rfl
  · rw [if_neg hv, if_neg hv]
    rfl

lemma runIn_fetchHeader {i : Token × Value} (hw : s.client ∉ w.abandoned)
    (hreply : Replies p s w (.fetch uid [.flags, .headerFields]) found)
    (hitems : itemsOf uid found = some items) (hi : items.bodyItem? = some i) :
    (runIn w (s.fetchHeader p uid)).1 = (i.2.orRefuse .noHeaders).map (·, items.flags) := by
  unfold fetchHeader
  rw [runIn_bind_ok (runIn_fetch hw hreply hitems), Items.body?_eq_of_bodyItem? hi,
    Value.orRefuse_eq_ite]
  by_cases hv : i.2 = .missing
  · rw [if_pos hv, if_pos hv]
    rfl
  · rw [if_neg hv, if_neg hv]
    rfl

lemma map_pair_inj {ε α β : Type} {b : β} {x y : Except ε α} :
    x.map (·, b) = y.map (·, b) ↔ x = y := by
  cases x <;> cases y <;> simp [Except.map]

lemma fetched_of_itemsOf (hw : s.client ∉ w.abandoned) (hitems : itemsOf uid found = some items) :
    Fetched p s w uid found items where
  source v hsection hreply := by
    obtain ⟨i, hi, hclear⟩ := Items.exists_bodyItem? hsection
    rw [runIn_fetchSource hw hreply hitems hi, Value.orRefuse_inj, hclear]
  header v hsection hreply := by
    obtain ⟨i, hi, hclear⟩ := Items.exists_bodyItem? hsection
    rw [runIn_fetchHeader hw hreply hitems hi, map_pair_inj, Value.orRefuse_inj, hclear]
  headerFlags hreply header fs hrun := by
    obtain ⟨r, hr, hhead⟩ := ((reads_fetchHeader uid).result w hw (header, fs)).1 hrun
    obtain rfl : found = r := Except.ok.inj (hreply.symm.trans hr)
    unfold headOf at hhead
    rw [hitems] at hhead
    obtain ⟨body, -, hbody⟩ := Option.map_eq_some_iff.1 hhead
    exact (congrArg Prod.snd hbody).symm
  flags hreply := by
    refine ((reads_fetchFlags uid).result w hw items.flags).2 ⟨found, hreply, ?_⟩
    rw [hitems]
    rfl

/-- A message of which one section is told: its value is what fetching the source or the header
gives exactly if it is not overshadowed, whatever else is told of this message or of others. The
flags are those under their name, whichever other items there are. -/
theorem section_fetched_iff (p : Peer σ) (s : Session) (w : World σ) (uid : Int)
    (found : List (Int × Items)) (items : Items) (hw : s.client ∉ w.abandoned)
    (hfound : WellNamed found) (hitems : (uid, items) ∈ found) :
    Fetched p s w uid found items ∧
      (∀ ts, (Items.flagsName, .many ts) ∈ items → items.flags = ts.map Token.toText) ∧
      ((∀ v, (Items.flagsName, v) ∉ items) → items.flags = []) ∧
      ∀ items' : Items, items'.Distinct →
        (∀ v, (Items.flagsName, v) ∈ items' ↔ (Items.flagsName, v) ∈ items) →
        items'.flags = items.flags := by
  have hdistinct : items.Distinct := hfound.items _ hitems
  refine ⟨fetched_of_itemsOf hw (itemsOf_eq_some hfound hitems), ?_, ?_, ?_⟩
  · intro ts hts
    have hfind := (Items.find?_eq_some_iff hdistinct "FLAGS").2 hts
    unfold Items.flags
    rw [hfind]
  · intro hnone
    have hfind : items.find? "FLAGS" = none := by
      refine Option.eq_none_iff_forall_ne_some.2 fun v hv => ?_
      exact hnone v ((Items.find?_eq_some_iff hdistinct "FLAGS").1 hv)
    unfold Items.flags
    rw [hfind]
  · intro items' hdistinct' hsame
    refine Items.flags_eq_of_find?_eq (Option.ext fun v => ?_)
    rw [Items.find?_eq_some_iff hdistinct', Items.find?_eq_some_iff hdistinct]
    exact hsame v

/-- A reply that tells of two messages, of the first one section before the size. -/
def sectionFirst : List (Int × Items) :=
  [(7, [(.octets (ascii "SEQ"), .single (.number 3)),
      (.octets (ascii "BODY[]"), .single (.octets (ascii "ab"))),
      (Items.flagsName, .many [.octets (ascii "\\Seen")]),
      (.octets (ascii "RFC822.SIZE"), .single (.number 2))]),
    (8, [(.octets (ascii "RFC822.SIZE"), .single (.number 9))])]

/-- The items of a message whose header is told before its source. -/
def headerFirst : Items :=
  [(.octets (ascii "RFC822.HEADER"), .single (.octets (ascii "A: b\n\n"))),
    (.octets (ascii "BODY[]"), .single (.octets (ascii "A: b\n\nc")))]

/-- The world of a server that gives one reply to a fetch. -/
def replying (found : List (Int × Items)) : World Script :=
  .start { fetch := [.ok found] } 0

theorem section_fetched_iff_of_sectionFirst :
    0 ∉ (replying sectionFirst).abandoned ∧ WellNamed sectionFirst ∧
      ∃ items, (7, items) ∈ sectionFirst ∧ items.TellsSection (.single (.octets (ascii "ab"))) ∧
        (runIn (replying sectionFirst) ((⟨0⟩ : Session).fetchSource Script.peer 7)).1 =
          .ok (.single (.octets (ascii "ab"))) ∧
        items.flags = ["\\Seen"] := by
  have hwell : WellNamed sectionFirst :=
    ⟨by decide, by unfold Items.Distinct; decide⟩
  obtain ⟨hfetched, hflags, -⟩ := section_fetched_iff Script.peer ⟨0⟩ (replying sectionFirst) 7
    sectionFirst _ List.not_mem_nil hwell List.mem_cons_self
  refine ⟨List.not_mem_nil, hwell, _, List.mem_cons_self, rfl, ?_, ?_⟩
  · refine (hfetched.source _ rfl rfl).2 ?_
    rw [Items.overshadows_iff]
    rintro ⟨i, hi, hname, -⟩
    cases hi
    cases hname
  · exact hflags [.octets (ascii "\\Seen")] (by decide +kernel)

theorem header_fetched_for_section :
    ¬ ∀ (found : List (Int × Items)) (uid : Int) (items : Items) (v : Value), WellNamed found →
      (uid, items) ∈ found → items.TellsSection v →
      (runIn (replying found) ((⟨0⟩ : Session).fetchSource Script.peer uid)).1 =
        v.orRefuse .noBody := by
  intro h
  have hwell : WellNamed [(7, headerFirst)] :=
    ⟨by decide +kernel, by unfold Items.Distinct; decide +kernel⟩
  cases h [(7, headerFirst)] 7 headerFirst (.single (.octets (ascii "A: b\n\nc"))) hwell
    List.mem_cons_self rfl

end Session

end Mailroom.Imap
