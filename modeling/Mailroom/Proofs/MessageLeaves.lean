import Mathlib.Data.List.Nodup
import Mathlib.Data.List.TakeWhile
import Mailroom.Mail.Digest
import Mailroom.Proofs.EntityParts

/-!
# Leaves of a message

What a digest shows is read off the leaves of the message, in document order. A leaf is any entity
but a multipart that has parts: a text, a message inside of the message, a report, or a multipart
that was read as a text. The walk settles a body by the first leaf of its kind and lists the
attached leaves; that it goes through nested multiparts does not show.
-/

namespace Mailroom.Mail

/-- An entity that is looked at as a whole, with its number. -/
structure Leaf where
  partId : String
  entity : Entity

mutual

/-- The leaves in an entity that has a number. -/
def Entity.leaves (path : String) : Entity → List Leaf
  | .leaf h text => [⟨path, .leaf h text⟩]
  | .container h before after parts =>
    if h.isMultipart && !parts.isEmpty then leavesAll path 1 parts
    else [⟨path, .container h before after parts⟩]

/-- The leaves in parts that are counted from `index`. -/
def leavesAll (path : String) (index : Nat) : List Entity → List Leaf
  | [] => []
  | e :: es => e.leaves s!"{path}.{index}" ++ leavesAll path (index + 1) es

end

namespace Leaf

/-- Whether a leaf is attached: its header says so, or it has a file name. -/
def isAttached (l : Leaf) : Bool :=
  l.entity.head.isDisposedAsAttachment ||
    match l.entity.fileName with
    | .ok (some _) => true
    | _ => false

/-- Whether a leaf can be the body of a type. -/
def isBody (type : List Char) (l : Leaf) : Bool :=
  !l.isAttached && l.entity.head.contentType == type

def text (l : Leaf) : Except Escape String :=
  (l.entity.chars.mapError Defect.escape).map String.ofList

def markup (l : Leaf) : Except Escape String := do
  Html.sanitize (← l.text)

def attachment (o : DigestOptions) (l : Leaf) : Except Escape Attachment := do
  l.entity.attachment o l.partId (← l.entity.fileName.mapError Defect.escape)

def collect (o : DigestOptions) (d : Digest) (l : Leaf) : Except Escape Digest :=
  l.entity.collectLeaf o l.partId d

end Leaf

/-! ## The walk -/

mutual

lemma Entity.Populated.collect_eq {o : DigestOptions} : ∀ {e : Entity}, e.Populated →
    ∀ (path : String) (d : Digest),
      e.collect o path d = (e.leaves path).foldlM (Leaf.collect o) d
  | .leaf h text, _, path, d => by
    rw [Entity.collect, Entity.leaves, List.foldlM_cons]
    exact (bind_pure _).symm
  | .container h before after parts, .container _ _ _ hparts hall, path, d => by
    rw [Entity.collect, Entity.leaves]
    -- A multipart without parts would be a leaf, but the walk would pass it over.
    have hsome : parts.isEmpty = false := by simpa using hparts
    rw [hsome, Bool.not_false, Bool.and_true]
    split
    · exact collectAll_eq hall path 1 d
    · rw [List.foldlM_cons]
      exact (bind_pure _).symm

lemma collectAll_eq {o : DigestOptions} : ∀ {es : List Entity}, (∀ e ∈ es, e.Populated) →
    ∀ (path : String) (index : Nat) (d : Digest),
      collectAll o path index d es = (leavesAll path index es).foldlM (Leaf.collect o) d
  | [], _, path, index, d => rfl
  | e :: es, h, path, index, d => by
    rw [List.forall_mem_cons] at h
    rw [collectAll, leavesAll, List.foldlM_append, h.1.collect_eq]
    congr 1
    funext d
    exact collectAll_eq h.2 path (index + 1) d

end

section Collecting

variable {o : DigestOptions} {l : Leaf} {ls : List Leaf} {d d' : Digest}
variable {headers : List (String × String)}

/-- Keeps the body that there is, or takes what is read from a leaf that can be it. -/
def settle (p : Leaf → Bool) (read : Leaf → Except Escape String) (body : Option String)
    (l : Leaf) : Except Escape (Option String) :=
  if body.isNone && p l then (read l).map some else .ok body

def attach (o : DigestOptions) (as : List Attachment) (l : Leaf) :
    Except Escape (List Attachment) :=
  if l.isAttached then (l.attachment o).map fun a => as ++ [a] else .ok as

/-- What is read from the first leaf that can be a body, if there is one. -/
def first? (p : Leaf → Bool) (read : Leaf → Except Escape String) (ls : List Leaf) :
    Except Escape (Option String) :=
  match ls.find? p with
  | none => .ok none
  | some l => (read l).map some

def htmlType : List Char :=
  "text/html".toList

lemma Leaf.isAttached_eq {name : Option String} (h : l.entity.fileName = .ok name) :
    l.isAttached = (l.entity.head.isDisposedAsAttachment || name.isSome) := by
  rw [Leaf.isAttached, h]
  cases name <;> rfl

lemma Leaf.attachment_eq {name : Option String} (h : l.entity.fileName = .ok name) :
    l.attachment o = l.entity.attachment o l.partId name := by
  rw [Leaf.attachment, h]
  rfl

lemma settle_of_not {p : Leaf → Bool} {read : Leaf → Except Escape String} {body : Option String}
    (h : (body.isNone && p l) = false) : settle p read body l = .ok body := by
  rw [settle, h]
  rfl

lemma settle_of {p : Leaf → Bool} {read : Leaf → Except Escape String} {body : Option String}
    (h : (body.isNone && p l) = true) : settle p read body l = (read l).map some := by
  rw [settle, h]
  rfl

/-- A leaf whose file name can be read is taken for at most one of two bodies and an attachment. -/
lemma Leaf.collect_eq {name : Option String} (h : l.entity.fileName = .ok name) :
    l.collect o d = do
      let text ← settle (isBody Head.plainType) Leaf.text d.bodyText l
      let markup ← settle (isBody htmlType) Leaf.markup d.bodyHtml l
      return ⟨d.headers, text, markup, ← attach o d.attachments l⟩ := by
  have hok : ∀ {α : Type} (x : α), (Except.ok x : Except Defect α).mapError Defect.escape = .ok x :=
    fun _ => rfl
  rw [Leaf.collect, Entity.collectLeaf, h, hok]
  change (if _ then _ else _) = _
  rw [← Leaf.isAttached_eq h, ← Leaf.attachment_eq h (o := o)]
  -- The uses exclude each other: what is attached is no body, and a text is no markup.
  by_cases hattached : l.isAttached = true
  · have hbody : ∀ type, l.isBody type = false := fun type => by rw [isBody, hattached]; rfl
    rw [if_pos hattached, settle_of_not (by rw [hbody, Bool.and_false]),
      settle_of_not (by rw [hbody, Bool.and_false]), attach, if_pos hattached]
    cases l.attachment o <;> rfl
  · have hbody : ∀ type, l.isBody type = (l.entity.head.contentType == type) := fun type => by
      simp [isBody, hattached]
    rw [if_neg hattached, attach, if_neg hattached]
    by_cases htext : (l.entity.head.contentType == Head.plainType && d.bodyText.isNone) = true
    · have hother : (l.entity.head.contentType == htmlType) = false := by
        rw [eq_of_beq (Bool.and_eq_true_iff.1 htext).1]
        decide
      rw [if_pos htext, settle_of (by rw [hbody, Bool.and_comm, htext]),
        settle_of_not (by rw [hbody, hother, Bool.and_false]), Leaf.text]
      cases l.entity.chars <;> rfl
    · rw [if_neg htext, settle_of_not (by rw [hbody, Bool.and_comm, eq_false_of_ne_true htext])]
      change (if (l.entity.head.contentType == htmlType && d.bodyHtml.isNone) = true then _
        else _) = _
      by_cases hmarkup : (l.entity.head.contentType == htmlType && d.bodyHtml.isNone) = true
      · rw [if_pos hmarkup, settle_of (by rw [hbody, Bool.and_comm, hmarkup]), Leaf.markup,
          Leaf.text]
        cases l.entity.chars with
        | error e => rfl
        | ok cs =>
          rw [hok]
          dsimp only [Except.map, bind, Except.bind]
          cases Html.sanitize (String.ofList cs) <;> rfl
      · rw [if_neg hmarkup,
          settle_of_not (by rw [hbody, Bool.and_comm, eq_false_of_ne_true hmarkup])]
        rfl

/-- A leaf is collected if its file name can be read and it can be taken for what it is. -/
lemma collect_eq_ok_iff :
    l.collect o d = .ok d' ↔
      (∃ name, l.entity.fileName = .ok name) ∧ d'.headers = d.headers ∧
        settle (Leaf.isBody Head.plainType) Leaf.text d.bodyText l = .ok d'.bodyText ∧
        settle (Leaf.isBody htmlType) Leaf.markup d.bodyHtml l = .ok d'.bodyHtml ∧
        attach o d.attachments l = .ok d'.attachments := by
  cases hname : l.entity.fileName with
  | error e =>
    rw [Leaf.collect, Entity.collectLeaf, hname]
    exact iff_of_false nofun fun h => nomatch h.1.choose_spec
  | ok name =>
    rw [Leaf.collect_eq hname]
    simp only [bind_eq_ok]
    constructor
    · rintro ⟨text, htext, markup, hmarkup, as, has, hd⟩
      cases hd
      exact ⟨⟨name, rfl⟩, rfl, htext, hmarkup, has⟩
    · rintro ⟨-, hheaders, htext, hmarkup, has⟩
      exact ⟨_, htext, _, hmarkup, _, has, by rw [← hheaders]; rfl⟩

lemma foldlM_collect_eq_ok_iff :
    ls.foldlM (Leaf.collect o) d = .ok d' ↔
      (∀ l ∈ ls, ∃ name, l.entity.fileName = .ok name) ∧ d'.headers = d.headers ∧
        ls.foldlM (settle (Leaf.isBody Head.plainType) Leaf.text) d.bodyText = .ok d'.bodyText ∧
        ls.foldlM (settle (Leaf.isBody htmlType) Leaf.markup) d.bodyHtml = .ok d'.bodyHtml ∧
        ls.foldlM (attach o) d.attachments = .ok d'.attachments := by
  induction ls generalizing d with
  | nil =>
    rw [List.foldlM_nil, List.foldlM_nil, List.foldlM_nil, List.foldlM_nil]
    constructor
    · intro h
      cases h
      exact ⟨List.forall_mem_nil _, rfl, rfl, rfl, rfl⟩
    · rintro ⟨-, hheaders, htext, hmarkup, has⟩
      cases d
      cases d'
      cases hheaders
      cases htext
      cases hmarkup
      cases has
      rfl
  | cons l ls ih =>
    simp only [List.foldlM_cons, bind_eq_ok, List.forall_mem_cons, ih, collect_eq_ok_iff]
    constructor
    · rintro ⟨d₁, ⟨hname, hheaders, htext, hmarkup, hattach⟩, hnames, hheaders', htext', hmarkup',
        hattach'⟩
      exact ⟨⟨hname, hnames⟩, hheaders'.trans hheaders, ⟨_, htext, htext'⟩, ⟨_, hmarkup, hmarkup'⟩,
        ⟨_, hattach, hattach'⟩⟩
    · rintro ⟨⟨hname, hnames⟩, hheaders, ⟨text, htext, htext'⟩, ⟨markup, hmarkup, hmarkup'⟩,
        ⟨as, hattach, hattach'⟩⟩
      exact ⟨⟨d.headers, text, markup, as⟩, ⟨hname, rfl, htext, hmarkup, hattach⟩, hnames, hheaders,
        htext', hmarkup', hattach'⟩

/-- A body that is settled stays. -/
lemma foldlM_settle_some (p : Leaf → Bool) (read : Leaf → Except Escape String) (t : String)
    (ls : List Leaf) : ls.foldlM (settle p read) (some t) = .ok (some t) := by
  induction ls with
  | nil => rfl
  | cons l ls ih => exact ih

lemma foldlM_settle_none (p : Leaf → Bool) (read : Leaf → Except Escape String)
    (ls : List Leaf) : ls.foldlM (settle p read) none = first? p read ls := by
  induction ls with
  | nil => rfl
  | cons l ls ih =>
    rw [List.foldlM_cons, settle, Option.isNone_none, Bool.true_and, first?]
    by_cases hl : p l = true
    · rw [if_pos hl, List.find?_cons_of_pos hl]
      dsimp only
      cases hread : read l with
      | error e => rfl
      | ok t => exact foldlM_settle_some p read t ls
    · rw [if_neg hl, List.find?_cons_of_neg hl]
      exact ih

lemma foldlM_attach (as : List Attachment) :
    ls.foldlM (attach o) as =
      ((ls.filter Leaf.isAttached).mapM (Leaf.attachment o)).map (as ++ ·) := by
  induction ls generalizing as with
  | nil =>
    rw [List.filter_nil, List.mapM_nil]
    exact congrArg Except.ok (List.append_nil as).symm
  | cons l ls ih =>
    rw [List.foldlM_cons, attach]
    by_cases hl : l.isAttached = true
    · rw [if_pos hl, List.filter_cons_of_pos hl, List.mapM_cons]
      cases hread : l.attachment o with
      | error e => rfl
      | ok a =>
        refine (ih (as ++ [a])).trans ?_
        cases (ls.filter Leaf.isAttached).mapM (Leaf.attachment o) with
        | error e => rfl
        | ok rest => exact congrArg Except.ok (List.append_assoc as [a] rest)
    · rw [if_neg hl, List.filter_cons_of_neg hl]
      exact ih as

end Collecting

/-! ## Numbers -/

/-- A number is a path, or the path with more steps behind it. -/
def Below (path number : String) : Prop :=
  ∃ steps, number.toList = path.toList ++ steps ∧ (steps = [] ∨ ∃ r, steps = '.' :: r)

lemma toList_step (path : String) (index : Nat) :
    (s!"{path}.{index}").toList = path.toList ++ '.' :: Nat.toDigits 10 index := by
  simp [toString]

lemma Below.refl (path : String) : Below path path :=
  ⟨[], (List.append_nil _).symm, .inl rfl⟩

lemma Below.of_step {path number : String} {index : Nat} (h : Below s!"{path}.{index}" number) :
    Below path number := by
  obtain ⟨steps, hnumber, -⟩ := h
  rw [toList_step, List.append_assoc, List.cons_append] at hnumber
  exact ⟨_, hnumber, .inr ⟨_, rfl⟩⟩

/-- What stands before the next step of a number. -/
lemma takeWhile_digits {steps : List Char} (h : steps = [] ∨ ∃ r, steps = '.' :: r) (n : Nat) :
    (Nat.toDigits 10 n ++ steps).takeWhile (· != '.') = Nat.toDigits 10 n := by
  rw [List.takeWhile_append_of_pos fun c hc =>
    bne_iff_ne.2 (ne_of_mem_of_not_mem hc (Text.notMem_toDigits rfl n))]
  rcases h with rfl | ⟨r, rfl⟩ <;> simp

/-- A number tells which of the parts of a multipart it is in. -/
lemma Below.index_eq {path number : String} {m n : Nat} (hm : Below s!"{path}.{m}" number)
    (hn : Below s!"{path}.{n}" number) : m = n := by
  obtain ⟨steps, hnumber, hsteps⟩ := hm
  obtain ⟨steps', hnumber', hsteps'⟩ := hn
  rw [toList_step, List.append_assoc, List.cons_append] at hnumber hnumber'
  have hrest := (List.cons.inj (List.append_cancel_left (hnumber.symm.trans hnumber'))).2
  have hdigits : Nat.toDigits 10 m = Nat.toDigits 10 n := by
    rw [← takeWhile_digits hsteps m, hrest, takeWhile_digits hsteps' n]
  rw [← Nat.ofDigitChars_ten_toDigits (n := m), hdigits, Nat.ofDigitChars_ten_toDigits]

mutual

lemma Entity.below_leaves : ∀ (e : Entity) (path : String), ∀ l ∈ e.leaves path,
    Below path l.partId
  | .leaf h text, path => List.forall_mem_singleton.2 (.refl path)
  | .container h before after parts, path => by
    intro l hl
    rw [Entity.leaves] at hl
    split at hl
    · obtain ⟨i, -, hi⟩ := below_leavesAll parts path 1 l hl
      exact hi.of_step
    · rw [List.mem_singleton.1 hl]
      exact .refl path

lemma below_leavesAll : ∀ (es : List Entity) (path : String) (index : Nat),
    ∀ l ∈ leavesAll path index es, ∃ i, index ≤ i ∧ Below s!"{path}.{i}" l.partId
  | [], path, index => List.forall_mem_nil _
  | e :: es, path, index => by
    intro l hl
    rw [leavesAll, List.mem_append] at hl
    rcases hl with hl | hl
    · exact ⟨index, Nat.le_refl _, e.below_leaves _ l hl⟩
    · obtain ⟨i, hi, hbelow⟩ := below_leavesAll es path (index + 1) l hl
      exact ⟨i, by omega, hbelow⟩

end

mutual

lemma Entity.nodup_leaves : ∀ (e : Entity) (path : String),
    ((e.leaves path).map Leaf.partId).Nodup
  | .leaf h text, path => List.nodup_singleton _
  | .container h before after parts, path => by
    rw [Entity.leaves]
    split
    · exact nodup_leavesAll parts path 1
    · exact List.nodup_singleton _

/-- No two leaves have one number. -/
lemma nodup_leavesAll : ∀ (es : List Entity) (path : String) (index : Nat),
    ((leavesAll path index es).map Leaf.partId).Nodup
  | [], path, index => List.nodup_nil
  | e :: es, path, index => by
    rw [leavesAll, List.map_append, List.nodup_append]
    refine ⟨e.nodup_leaves _, nodup_leavesAll es path (index + 1), ?_⟩
    rintro _ hhere _ hlater rfl
    obtain ⟨l, hl, hnumber⟩ := List.mem_map.1 hhere
    obtain ⟨l', hl', hnumber'⟩ := List.mem_map.1 hlater
    -- A number in two of the parts would begin with both of their indices.
    have hbelow := e.below_leaves _ l hl
    obtain ⟨i, hi, hbelow'⟩ := below_leavesAll es path (index + 1) l' hl'
    rw [hnumber] at hbelow
    rw [hnumber'] at hbelow'
    have := hbelow.index_eq hbelow'
    omega

end

/-! ## Digests -/

/-- The text of an attachment: only that of a PDF document that is not too large, and only if it is
asked for. -/
def extracted (o : DigestOptions) (type : String) (source : List UInt8) : Option String :=
  if o.extractText && type == "application/pdf" && source.length ≤ maxPdfSize then
    (pdfText o.pdf source).map fun t => Text.truncate t o.attachmentMaxChars
  else
    none

/-- An attachment tells of a leaf. -/
structure Attachment.Describes (o : DigestOptions) (l : Leaf) (a : Attachment) : Prop where
  partId : a.partId = l.partId
  fileName : l.entity.fileName = .ok a.fileName
  contentType : a.contentType = String.ofList l.entity.head.contentType
  octets : ∃ source, l.entity.octets = .ok source ∧ a.size = source.length ∧
    a.text = extracted o a.contentType source

/-- A digest shows a header, and bodies and attachments out of leaves. -/
structure Digest.Shows (o : DigestOptions) (headers : List (String × String)) (ls : List Leaf)
    (d : Digest) : Prop where
  headers : d.headers = headers
  bodyText : ∃ body, first? (Leaf.isBody Head.plainType) Leaf.text ls = .ok body ∧
    d.bodyText = body.map fun t => Text.truncate t o.bodyMaxChars
  bodyHtml : ∃ body, first? (Leaf.isBody htmlType) Leaf.markup ls = .ok body ∧
    d.bodyHtml = if o.includeHtml then body.map fun t => Text.truncate t o.bodyMaxChars else none
  attachments : List.Forall₂ (Attachment.Describes o) (ls.filter Leaf.isAttached) d.attachments

variable {o : DigestOptions}

lemma attachment_eq_ok_iff {l : Leaf} {a : Attachment} :
    l.attachment o = .ok a ↔ a.Describes o l := by
  unfold Leaf.attachment Entity.attachment
  simp only [bind_eq_ok, mapError_eq_ok]
  constructor
  · rintro ⟨name, hname, source, hsource, ha⟩
    cases ha
    exact ⟨rfl, hname, rfl, source, hsource, rfl, rfl⟩
  · rintro ⟨hpart, hname, htype, source, hsource, hsize, htext⟩
    refine ⟨a.fileName, hname, source, hsource, congrArg Except.ok ?_⟩
    obtain ⟨name, type, size, part, text⟩ := a
    dsimp only at hpart htype hsize htext
    rw [htext, hpart, hsize, htype]
    rfl

lemma describes_eq : Attachment.Describes o = fun l a => l.attachment o = .ok a := by
  funext l a
  exact propext attachment_eq_ok_iff.symm

lemma populated_of_readWithHeaders {source : List UInt8} {e : Entity}
    {headers : List (String × String)} (h : Digest.readWithHeaders source = .ok (e, headers)) :
    e.Populated := by
  obtain ⟨e', he, h⟩ := bind_eq_ok.1 h
  obtain ⟨headers', -, h⟩ := bind_eq_ok.1 h
  cases h
  exact populated_of_read he

/-- What the walk through a message comes to. -/
lemma Entity.Populated.collect_eq_ok_iff {e : Entity} (h : e.Populated)
    {headers : List (String × String)} {d : Digest} :
    e.collect o "1" ⟨headers, none, none, []⟩ = .ok d ↔
      (∀ l ∈ e.leaves "1", ∃ name, l.entity.fileName = .ok name) ∧ d.headers = headers ∧
        first? (Leaf.isBody Head.plainType) Leaf.text (e.leaves "1") = .ok d.bodyText ∧
        first? (Leaf.isBody htmlType) Leaf.markup (e.leaves "1") = .ok d.bodyHtml ∧
        List.Forall₂ (Attachment.Describes o) ((e.leaves "1").filter Leaf.isAttached)
          d.attachments := by
  have hnone : ∀ as : Except Escape (List Attachment), as.map ([] ++ ·) = as := by
    intro as
    cases as <;> rfl
  rw [h.collect_eq, foldlM_collect_eq_ok_iff, foldlM_settle_none, foldlM_settle_none,
    foldlM_attach, hnone, mapM_eq_ok, describes_eq]

/-- What is shown of a source if all of it can be read. -/
lemma read_eq_ok_iff {source : List UInt8} {d : Digest} :
    Digest.read o source = .ok d ↔
      ∃ e headers, Digest.readWithHeaders source = .ok (e, headers) ∧
        (∀ l ∈ e.leaves "1", ∃ name, l.entity.fileName = .ok name) ∧
        d.Shows o headers (e.leaves "1") := by
  unfold Digest.read
  simp only [bind_eq_ok, mapError_eq_ok]
  constructor
  · rintro ⟨⟨e, headers⟩, hread, d₀, hwalk, hcut⟩
    obtain rfl := Except.ok.inj hcut
    obtain ⟨hnames, hheaders, htext, hmarkup, has⟩ :=
      (populated_of_readWithHeaders hread).collect_eq_ok_iff.1 hwalk
    exact ⟨e, headers, hread, hnames, hheaders, ⟨_, htext, rfl⟩, ⟨_, hmarkup, rfl⟩, has⟩
  · rintro ⟨e, headers, hread, hnames, hheaders, ⟨text, htext, hshown⟩, ⟨markup, hmarkup, hshown'⟩,
      has⟩
    refine ⟨(e, headers), hread, ⟨headers, text, markup, d.attachments⟩,
      (populated_of_readWithHeaders hread).collect_eq_ok_iff.2
        ⟨hnames, rfl, htext, hmarkup, has⟩, ?_⟩
    refine congrArg Except.ok ?_
    obtain ⟨headers', bodyText, bodyHtml, attachments⟩ := d
    dsimp only at hheaders hshown hshown'
    rw [hheaders, hshown, hshown']
    rfl

def Attachment.withoutText (a : Attachment) : Attachment :=
  { a with text := none }

/-- How two digests of one message agree that are made with different options. -/
structure Digest.Agrees (o o' : DigestOptions) (d d' : Digest) : Prop where
  headers : d'.headers = d.headers
  bodyText : o'.bodyMaxChars = o.bodyMaxChars → d'.bodyText = d.bodyText
  bodyHtml : o'.bodyMaxChars = o.bodyMaxChars → o'.includeHtml = o.includeHtml →
    d'.bodyHtml = d.bodyHtml
  listed : d'.attachments.map Attachment.withoutText = d.attachments.map Attachment.withoutText
  attachments : o'.extractText = o.extractText → o'.attachmentMaxChars = o.attachmentMaxChars →
    o'.pdf = o.pdf → d'.attachments = d.attachments

variable {o' : DigestOptions} {ls : List Leaf} {as : List Attachment}

lemma extracted_congr (htext : o'.extractText = o.extractText)
    (hmax : o'.attachmentMaxChars = o.attachmentMaxChars) (hpdf : o'.pdf = o.pdf) (type : String)
    (source : List UInt8) : extracted o' type source = extracted o type source := by
  rw [extracted, extracted, htext, hmax, hpdf]

/-- The attachments of a message under other options differ in nothing but their texts. -/
lemma exists_described (h : List.Forall₂ (Attachment.Describes o) ls as) (o' : DigestOptions) :
    ∃ as', List.Forall₂ (Attachment.Describes o') ls as' ∧
      as'.map Attachment.withoutText = as.map Attachment.withoutText ∧
      (o'.extractText = o.extractText → o'.attachmentMaxChars = o.attachmentMaxChars →
        o'.pdf = o.pdf → as' = as) := by
  induction h with
  | nil => exact ⟨[], .nil, rfl, fun _ _ _ => rfl⟩
  | @cons l a ls as hfirst _ ih =>
    obtain ⟨hpart, hname, htype, source, hsource, hsize, htext⟩ := hfirst
    obtain ⟨as', hrest, hlisted, hsame⟩ := ih
    refine ⟨{ a with text := extracted o' a.contentType source } :: as',
      .cons ⟨hpart, hname, htype, source, hsource, hsize, rfl⟩ hrest, ?_, ?_⟩
    · rw [List.map_cons, List.map_cons, hlisted]
      rfl
    · intro hextract hmax hpdf
      rw [hsame hextract hmax hpdf, extracted_congr hextract hmax hpdf, ← htext]

/-- A message is shown under any options, and differently only where they say so. -/
lemma exists_agreeing {source : List UInt8} {d : Digest} (h : Digest.read o source = .ok d)
    (o' : DigestOptions) : ∃ d', Digest.read o' source = .ok d' ∧ Digest.Agrees o o' d d' := by
  obtain ⟨e, headers, hread, hnames, hheaders, ⟨text, htext, hshown⟩, ⟨markup, hmarkup, hshown'⟩,
    has⟩ := read_eq_ok_iff.1 h
  obtain ⟨as', has', hlisted, hsame⟩ := exists_described has o'
  refine ⟨⟨headers, text.map fun t => Text.truncate t o'.bodyMaxChars,
    if o'.includeHtml then markup.map fun t => Text.truncate t o'.bodyMaxChars else none, as'⟩,
    read_eq_ok_iff.2 ⟨e, headers, hread, hnames, rfl, ⟨text, htext, rfl⟩, ⟨markup, hmarkup, rfl⟩,
      has'⟩, hheaders.symm, ?_, ?_, hlisted, hsame⟩
  · intro hmax
    rw [hshown, hmax]
  · intro hmax hinclude
    rw [hshown', hmax, hinclude]

lemma partIds_of_describes (h : List.Forall₂ (Attachment.Describes o) ls as) :
    as.map Attachment.partId = ls.map Leaf.partId := by
  induction h with
  | nil => rfl
  | cons hfirst _ ih => rw [List.map_cons, List.map_cons, hfirst.partId, ih]

lemma mem_of_describes (h : List.Forall₂ (Attachment.Describes o) ls as) {a : Attachment}
    (ha : a ∈ as) : ∃ l ∈ ls, a.Describes o l := by
  induction h with
  | nil => cases ha
  | cons hfirst _ ih =>
    rcases List.mem_cons.1 ha with rfl | ha
    · exact ⟨_, List.mem_cons_self, hfirst⟩
    · obtain ⟨l, hl, hdescribes⟩ := ih ha
      exact ⟨l, List.mem_cons_of_mem _ hl, hdescribes⟩

/-- A text is shown only of PDF documents that are not too large, if it was asked for, and not more
of it than asked for. -/
lemma Attachment.Describes.bounded {l : Leaf} {a : Attachment} (h : a.Describes o l) {t : String}
    (ht : a.text = some t) :
    o.extractText = true ∧ a.contentType = "application/pdf" ∧ a.size ≤ maxPdfSize ∧
      (0 ≤ o.attachmentMaxChars → (t.length : Int) ≤ o.attachmentMaxChars) := by
  obtain ⟨source, -, hsize, htext⟩ := h.octets
  rw [htext, extracted] at ht
  split at ht
  · next hasked =>
    simp only [Bool.and_eq_true, beq_iff_eq, decide_eq_true_eq] at hasked
    obtain ⟨whole, -, rfl⟩ := Option.map_eq_some_iff.1 ht
    exact ⟨hasked.1.1, hasked.1.2, hsize ▸ hasked.2, Text.length_truncate_le⟩
  · cases ht

/-- A digest is read off the leaves of its message in document order, and the options change
nothing else of it than they are about. -/
theorem read_shows_leaves {source : List UInt8} {d : Digest} (h : Digest.read o source = .ok d) :
    ∃ e headers, Digest.readWithHeaders source = .ok (e, headers) ∧
      d.Shows o headers (e.leaves "1") ∧
      (d.attachments.map Attachment.partId).Nodup ∧
      (∀ a ∈ d.attachments, ∀ t, a.text = some t →
        o.extractText = true ∧ a.contentType = "application/pdf" ∧ a.size ≤ 5000000 ∧
          (0 ≤ o.attachmentMaxChars → (t.length : Int) ≤ o.attachmentMaxChars)) ∧
      ∀ o', ∃ d', Digest.read o' source = .ok d' ∧ Digest.Agrees o o' d d' := by
  obtain ⟨e, headers, hread, -, hshows⟩ := read_eq_ok_iff.1 h
  refine ⟨e, headers, hread, hshows, ?_, ?_, exists_agreeing h⟩
  · rw [partIds_of_describes hshows.attachments]
    exact (e.nodup_leaves "1").sublist (List.filter_sublist.map _)
  · intro a ha t ht
    obtain ⟨l, -, hdescribes⟩ := mem_of_describes hshows.attachments ha
    exact hdescribes.bounded ht

/-- A multipart in a multipart, the second of its texts attached. -/
def nestedSource : List UInt8 :=
  ("Content-Type: multipart/mixed; boundary=b\n\n--b\n" ++
    "Content-Type: multipart/alternative; boundary=c\n\n--c\n" ++
    "Content-Type: text/html\n\n<p>hi<x>!</x></p>\n--c\n\nhi!\n--c--\n--b\n" ++
    "Content-Type: application/pdf; name=f\n\npdf\n--b--\n").toUTF8.toList

def nestedOptions : DigestOptions where
  bodyMaxChars := 2
  includeHtml := true
  extractText := true
  attachmentMaxChars := 4
  pdf := fun _ => some [some "page", some "two"]

def nestedDigest : Digest where
  headers := [("Content-Type", "multipart/mixed; boundary=b")]
  bodyText := some "hi"
  bodyHtml := some "<p"
  attachments := [⟨some "f", "application/pdf", 3, "1.2", some "page"⟩]

theorem read_shows_leaves_of_nested :
    Digest.read nestedOptions nestedSource = .ok nestedDigest ∧
      ∃ e headers, Digest.readWithHeaders nestedSource = .ok (e, headers) ∧
        nestedDigest.Shows nestedOptions headers (e.leaves "1") := by
  have hread : Digest.read nestedOptions nestedSource = .ok nestedDigest := by decide +kernel
  obtain ⟨e, headers, hmessage, hshows, -⟩ := read_shows_leaves hread
  exact ⟨hread, e, headers, hmessage, hshows⟩

end Mailroom.Mail
