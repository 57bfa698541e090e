import Mailroom.Proofs.OverlapStep

/-!
# Calls that pass a cursor on

Calls on a cursor attempt no message twice as long as they do not overlap, each beginning only when
the one before it has left. Two calls that overlap begin at one place of their list, for nothing is
reserved when a snapshot is taken; both attempt the messages there, and the one that leaves last
moves the cursor to where its own page ends, be it backwards.
-/

namespace Mailroom

open Imap

variable {σ : Type} {v : Service σ} {p : Cursor.Policy} {x x' : Scene σ} {token : String}

namespace Scene

/-- No message is attempted by two calls on a cursor. -/
def SinglePass (x : Scene σ) (token : String) : Prop :=
  x.visits.Pairwise fun c d => c.On token → d.On token →
    ∀ k uid uid', c.Attempts k uid → ¬ d.Attempts k uid'

/-- At most one call on a cursor has not left. -/
def Alone (x : Scene σ) (token : String) : Prop :=
  x.visits.Pairwise fun c d => c.On token → d.On token → c.HasLeft ∨ d.HasLeft

/-- Calls on a cursor began at different places. -/
def Apart (x : Scene σ) (token : String) : Prop :=
  x.visits.Pairwise fun c d => c.On token → d.On token →
    c.sheet.snapshot.offset ≠ d.sheet.snapshot.offset

end Scene

/-- The place that is kept lies behind the page of a call that has left, and is where a call began
that has not. -/
structure Visit.Fits (e : Cursor.Entry) (c : Visit) : Prop where
  left : c.HasLeft → c.sheet.nextOffset ≤ e.offset
  reading : ¬ c.HasLeft → c.sheet.snapshot.offset = e.offset

/-- Calls on a cursor follow each other. -/
structure InOrder (x : Scene σ) (token : String) : Prop where
  order : x.visits.Pairwise fun c d => c.On token → d.On token →
    c.HasLeft ∧ c.sheet.nextOffset ≤ d.sheet.snapshot.offset
  fits : ∀ e, x.world.cursors.find? token = some e → ∀ c ∈ x.visits, c.On token → c.Fits e

section Exchange

variable {α : Type} {before after : List α} {a b : α}

lemma pairwise_exchange {R : α → α → Prop} (h : (before ++ a :: after).Pairwise R)
    (hbefore : ∀ c ∈ before, R c a → R c b) (hafter : ∀ c ∈ after, R a c → R b c) :
    (before ++ b :: after).Pairwise R := by
  rw [List.pairwise_append, List.pairwise_cons] at h ⊢
  obtain ⟨hb, ⟨ha, hrest⟩, hcross⟩ := h
  refine ⟨hb, ⟨fun c hc => hafter c hc (ha c hc), hrest⟩, fun c hc d hd => ?_⟩
  rcases List.mem_cons.1 hd with rfl | hd
  · exact hbefore c hc (hcross c hc a List.mem_cons_self)
  · exact hcross c hc d (List.mem_cons_of_mem _ hd)

lemma forall_mem_exchange {P : α → Prop} (h : ∀ c ∈ before ++ a :: after, P c) (hb : P b) :
    ∀ c ∈ before ++ b :: after, P c := by
  rw [List.forall_mem_append, List.forall_mem_cons] at h ⊢
  exact ⟨h.1, hb, h.2.2⟩

end Exchange

namespace InOrder

variable {before after : List Visit} {c d : Visit} {e : Cursor.Entry}

/-- A call that has not left is the last of those on its cursor. -/
lemma order_exchange (hx : InOrder x token) (hvisits : x.visits = before ++ c :: after)
    (hreading : c.progress = .reading) (hsnapshot : d.sheet.snapshot = c.sheet.snapshot)
    (hon : d.On token → c.On token) :
    (before ++ d :: after).Pairwise fun c d => c.On token → d.On token →
      c.HasLeft ∧ c.sheet.nextOffset ≤ d.sheet.snapshot.offset := by
  refine pairwise_exchange (hvisits ▸ hx.order) (fun b _ h hb hd => ?_) fun a _ h hd ha => ?_
  · rw [hsnapshot]
    exact h hb (hon hd)
  · exact absurd (h (hon hd) ha).1 (Visit.not_hasLeft_of_reading hreading)

/-- An entry that was held before a call went on fits the others as it did. -/
lemma fits_exchange (hx : InOrder x token) (hvisits : x.visits = before ++ c :: after)
    (hfind : x.world.cursors.find? token = some e) (hd : d.On token → d.Fits e) :
    ∀ b ∈ before ++ d :: after, b.On token → b.Fits e :=
  forall_mem_exchange (hvisits ▸ hx.fits e hfind) hd

/-- The others on the cursor of a call that has not left were before it. -/
lemma fits_moved (hx : InOrder x token) (hvisits : x.visits = before ++ c :: after)
    (hreading : c.progress = .reading) (hon : c.On token) (he : e.offset = c.sheet.nextOffset)
    (hd : d.Fits e) : ∀ b ∈ before ++ d :: after, b.On token → b.Fits e := by
  have horder := hx.order
  rw [hvisits, List.pairwise_append, List.pairwise_cons] at horder
  obtain ⟨-, ⟨hafter, -⟩, hbefore⟩ := horder
  have hle : c.sheet.snapshot.offset ≤ c.sheet.nextOffset :=
    Int.le_add_of_nonneg_right (Int.natCast_nonneg _)
  rw [List.forall_mem_append, List.forall_mem_cons]
  refine ⟨fun b hb hbon => ?_, fun _ => hd, fun a ha haon => ?_⟩
  · obtain ⟨hleft, hplace⟩ := hbefore b hb c List.mem_cons_self hbon hon
    exact ⟨fun _ => by omega, fun hopen => absurd hleft hopen⟩
  · exact absurd (hafter a ha hon haon).1 (Visit.not_hasLeft_of_reading hreading)

/-- A call that enters begins where the last one ended, if that has left. -/
lemma enter (hx : InOrder x token) (hr : Regular x) (hc : Opens x.world c)
    (hvisits : x'.visits = x.visits ++ [c]) (hstore : x.world.cursors.Drops x'.world.cursors)
    (halone : x'.Alone token) : InOrder x' token := by
  have hopen := Visit.not_hasLeft_of_reading hc.reading
  have hbegin : c.On token → ∃ e, x.world.cursors.find? token = some e ∧
      e.offset = c.sheet.snapshot.offset := by
    intro hon
    obtain ⟨e, hfind, -, hoffset⟩ := hc.held hr.sound ((Visit.on_of_reading hc.reading).1 hon)
    exact ⟨e, hfind, hoffset⟩
  constructor
  · unfold Scene.Alone at halone
    rw [hvisits, List.pairwise_append] at halone ⊢
    refine ⟨hx.order, List.pairwise_singleton _ _, fun d hd c' hc' hdon hon => ?_⟩
    obtain rfl := List.mem_singleton.1 hc'
    obtain ⟨e, hfind, hoffset⟩ := hbegin hon
    have hleft := (halone.2.2 d hd c' hc' hdon hon).resolve_right hopen
    exact ⟨hleft, hoffset ▸ (hx.fits e hfind d hd hdon).left hleft⟩
  · intro e' hfind'
    have hkept := hstore.only hr.sound _ _ hfind'
    rw [hvisits, List.forall_mem_append, List.forall_mem_singleton]
    refine ⟨hx.fits e' hkept, fun hon => ⟨fun hleft => absurd hleft hopen, fun _ => ?_⟩⟩
    obtain ⟨e, hfind, hoffset⟩ := hbegin hon
    rw [← hoffset, Option.some.inj (hfind.symm.trans hkept)]

/-- A call that attempts a message or fails stays where it is. -/
lemma stay (hx : InOrder x token) (hreading : c.progress = .reading)
    (hvisits : x.visits = before ++ c :: after) (hvisits' : x'.visits = before ++ d :: after)
    (hstore : x'.world.cursors = x.world.cursors) (hsnapshot : d.sheet.snapshot = c.sheet.snapshot)
    (hon : d.On token → c.On token) (hopen : ¬ d.HasLeft) : InOrder x' token := by
  constructor
  · exact hvisits' ▸ hx.order_exchange hvisits hreading hsnapshot hon
  · intro e hfind
    rw [hstore] at hfind
    have hfits := hx.fits e hfind c (by simp [hvisits])
    refine hvisits' ▸ hx.fits_exchange hvisits hfind fun hd =>
      ⟨fun h => absurd h hopen, fun _ => ?_⟩
    rw [hsnapshot]
    exact (hfits (hon hd)).reading (Visit.not_hasLeft_of_reading hreading)

lemma last (hx : InOrder x token) (hr : Regular x) (hreading : c.progress = .reading)
    (hvisits : x.visits = before ++ c :: after)
    (hvisits' : x'.visits = before ++ c.ended (.left none) :: after)
    (hstore : x'.world.cursors = c.sheet.snapshot.cursor.elim x.world.cursors
      (x.world.cursors.delete (Instant.ofMillis x.world.clock))) : InOrder x' token := by
  have hon : (c.ended (.left none)).On token → c.sheet.snapshot.cursor = some token := by simp
  constructor
  · exact hvisits' ▸ hx.order_exchange hvisits hreading rfl fun h => .inl (hon h)
  · intro e hfind
    rw [hstore] at hfind
    cases hcursor : c.sheet.snapshot.cursor with
    | none =>
      rw [hcursor] at hfind hon
      exact hvisits' ▸ hx.fits_exchange hvisits hfind fun h => by cases hon h
    | some token' =>
      rw [hcursor] at hfind hon
      obtain ⟨htoken, hkept, -⟩ := hr.sound.find?_delete.1 hfind
      exact hvisits' ▸ hx.fits_exchange hvisits hkept fun h =>
        absurd (Option.some.inj (hon h)).symm htoken

lemma moveOn {token' : String} {now : Instant} (hx : InOrder x token) (hr : Regular x)
    (hreading : c.progress = .reading) (hcursor : c.sheet.snapshot.cursor = some token')
    (hvisits : x.visits = before ++ c :: after)
    (hvisits' : x'.visits = before ++ c.ended (.left (some token')) :: after)
    (hstore : x'.world.cursors = x.world.cursors.advance p now token' c.sheet.nextOffset) :
    InOrder x' token := by
  have hon : (c.ended (.left (some token'))).On token → token' = token := by simp [hcursor]
  constructor
  · refine hvisits' ▸ hx.order_exchange hvisits hreading rfl fun h => .inl ?_
    rw [hcursor, hon h]
  · intro e' hfind
    rw [hstore] at hfind
    obtain ⟨e, hkept, -, rfl⟩ := hr.sound.find?_advance.1 hfind
    by_cases htoken : token = token'
    · rw [if_pos htoken]
      refine hvisits' ▸ hx.fits_moved hvisits hreading (.inl (htoken ▸ hcursor)) rfl ?_
      exact ⟨fun _ => le_rfl, fun hopen => absurd ⟨_, rfl⟩ hopen⟩
    · rw [if_neg htoken]
      exact hvisits' ▸ hx.fits_exchange hvisits hkept fun h => absurd (hon h).symm htoken

lemma create {now : Instant} {new : Cursor.Entry} (hx : InOrder x token) (hr : Regular x)
    (hreading : c.progress = .reading) (hcursor : c.sheet.snapshot.cursor = none)
    (hvisits : x.visits = before ++ c :: after)
    (hvisits' : x'.visits =
      before ++ c.ended (.left (some (x.world.cursors.create p now new).1)) :: after)
    (hstore : x'.world.cursors = (x.world.cursors.create p now new).2)
    (hnew : new.offset = c.sheet.nextOffset) : InOrder x' token := by
  generalize htoken' : (x.world.cursors.create p now new).1 = token' at hvisits'
  have hon : (c.ended (.left (some token'))).On token → token' = token := by simp [hcursor]
  by_cases htoken : token' = token
  · -- Nobody was on a cursor that was not issued.
    have hnobody : ∀ b ∈ x.visits, ¬ b.On token := by
      intro b hb hbon
      have hissued := hr.issued b hb token hbon
      rw [← htoken, ← htoken'] at hissued
      exact Cursor.Store.not_issued_create _ _ _ _ hissued
    rw [hvisits, List.forall_mem_append, List.forall_mem_cons] at hnobody
    constructor
    · rw [hvisits']
      refine pairwise_exchange (hvisits ▸ hx.order) (fun b hb _ hbon => ?_) fun a ha _ _ haon => ?_
      · exact absurd hbon (hnobody.1 b hb)
      · exact absurd haon (hnobody.2.2 a ha)
    · intro e hfind
      rw [hstore, ← htoken, ← htoken'] at hfind
      obtain rfl := hr.sound.find?_create_only hfind
      rw [hvisits', List.forall_mem_append, List.forall_mem_cons]
      refine ⟨fun b hb hbon => absurd hbon (hnobody.1 b hb), fun _ => ⟨fun _ => hnew.ge, ?_⟩,
        fun a ha haon => absurd haon (hnobody.2.2 a ha)⟩
      exact fun hopen => absurd ⟨_, rfl⟩ hopen
  · constructor
    · exact hvisits' ▸ hx.order_exchange hvisits hreading rfl fun h => absurd (hon h) htoken
    · intro e hfind
      rw [hstore] at hfind
      have hkept := (hr.sound.find?_create hfind).resolve_right fun h =>
        htoken (htoken'.symm.trans h.1.symm)
      exact hvisits' ▸ hx.fits_exchange hvisits hkept fun h => absurd (hon h) htoken

end InOrder

/-- A beat keeps calls in order unless two of them overlap after it. -/
lemma Step.inOrder (h : Step p x x') (hr : Regular x) (hx : InOrder x token)
    (halone : x'.Alone token) : InOrder x' token := by
  cases h with
  | drop hvisits hstore =>
    refine ⟨hvisits ▸ hx.order, fun e hfind => hvisits ▸ hx.fits e ?_⟩
    exact hstore.only hr.sound _ _ hfind
  | enter c hc hvisits hstore => exact hx.enter hr hc hvisits hstore halone
  | attempt before c after uid row hreading huid hrow hvisits hvisits' hstore =>
    exact hx.stay hreading hvisits hvisits' hstore rfl id (Visit.not_hasLeft_of_reading hreading)
  | fail before c after hreading hvisits hvisits' hstore =>
    refine hx.stay hreading hvisits hvisits' hstore rfl (fun h => .inl (Visit.on_failed.1 h)) ?_
    rintro ⟨next, hleft⟩
    cases hleft
  | last before c after hreading hdone hlast hvisits hvisits' hstore =>
    exact hx.last hr hreading hvisits hvisits' hstore
  | moveOn before c after token' hreading hdone hmore hcursor hvisits hvisits' hstore =>
    exact hx.moveOn hr hreading hcursor hvisits hvisits' hstore
  | create before c after hreading hdone hmore hcursor hvisits hvisits' hstore =>
    exact hx.create hr hreading hcursor hvisits hvisits' hstore rfl

/-- While calls are in order the place that is kept does not go back. -/
lemma Step.offset_le (h : Step p x x') (hr : Regular x) (hx : InOrder x token)
    (hissued : x.world.cursors.Issued token) {e' : Cursor.Entry}
    (hfind : x'.world.cursors.find? token = some e') :
    ∃ e, x.world.cursors.find? token = some e ∧ e.offset ≤ e'.offset := by
  cases h.held hr.sound hfind with
  | kept hfind => exact ⟨e', hfind, le_rfl⟩
  | moved before c after e hreading hdone hcursor hvisits hvisits' hfind huids hoffset =>
    have hplace := (hx.fits e hfind c (by simp [hvisits]) (.inl hcursor)).reading
      (Visit.not_hasLeft_of_reading hreading)
    refine ⟨e, hfind, ?_⟩
    rw [← hplace, hoffset]
    exact Int.le_add_of_nonneg_right (Int.natCast_nonneg _)
  | made _ _ _ _ _ _ _ _ hnew => exact absurd hissued hnew

/-- Calls that begin at one place have done so ever after. -/
lemma Step.apart_of (h : Step p x x') (hx : x'.Apart token) : x.Apart token := by
  unfold Scene.Apart at *
  rcases h.visits with hsame | ⟨c, -, hvisits⟩ | ⟨before, c, d, after, hvisits, hvisits', hgoes⟩
  · exact hsame ▸ hx
  · rw [hvisits, List.pairwise_append] at hx
    exact hx.1
  · rw [hvisits'] at hx
    rw [hvisits]
    refine pairwise_exchange hx (fun b _ h hb hc => ?_) fun a _ h hc ha => ?_
    · rw [← hgoes.snapshot_eq]
      exact h hb (hgoes.on hc)
    · rw [← hgoes.snapshot_eq]
      exact h (hgoes.on hc) ha

lemma Visit.Goes.on_or_left {c d : Visit} (h : c.Goes d) (hon : d.On token) :
    c.On token ∨ d.HasLeft := by
  cases h with
  | attempt => exact .inl hon
  | fail => exact .inl (.inl (Visit.on_failed.1 hon))
  | leave next => exact .inr ⟨next, rfl⟩

/-- Calls that are in order overlap only if they come to begin at one place. -/
lemma Step.alone_of (h : Step p x x') (hr : Regular x) (hx : InOrder x token)
    (halone : x.Alone token) (hapart : x'.Apart token) : x'.Alone token := by
  unfold Scene.Alone at *
  rcases h.visits with hsame | ⟨c, hc, hvisits⟩ | ⟨before, c, d, after, hvisits, hvisits', hgoes⟩
  · exact hsame ▸ halone
  · unfold Scene.Apart at hapart
    rw [hvisits, List.pairwise_append] at hapart ⊢
    refine ⟨halone, List.pairwise_singleton _ _, fun d hd c' hc' hdon hon => ?_⟩
    obtain rfl := List.mem_singleton.1 hc'
    obtain ⟨e, hfind, -, hoffset⟩ :=
      hc.held hr.sound ((Visit.on_of_reading hc.reading).1 hon)
    by_contra hopen
    have hplace := (hx.fits e hfind d hd hdon).reading fun hleft => hopen (.inl hleft)
    exact hapart.2.2 d hd c' hc' hdon hon (hplace.trans hoffset)
  · have hreading := Visit.not_hasLeft_of_reading hgoes.reading
    rw [hvisits] at halone
    rw [hvisits']
    refine pairwise_exchange halone (fun b _ h hb hd => ?_) fun a _ h hd ha => ?_
    · rcases hgoes.on_or_left hd with hc | hleft
      · exact .inl ((h hb hc).resolve_right hreading)
      · exact .inr hleft
    · rcases hgoes.on_or_left hd with hc | hleft
      · exact .inr ((h hc ha).resolve_left hreading)
      · exact .inl hleft

namespace Service

/-- Calls on a cursor do not overlap: at no moment have two of them not left. -/
def Serial (v : Service σ) (x : Scene σ) (bs : List (Beat σ)) (token : String) : Prop :=
  ∀ bs', bs' <+: bs → (v.overlap x bs').Alone token

/-- The place that is kept under a cursor never goes back. -/
def Advancing (v : Service σ) (x : Scene σ) (bs : List (Beat σ)) (token : String) : Prop :=
  ∀ bs₁ bs₂, bs₁ <+: bs₂ → bs₂ <+: bs → ∀ e₁ e₂,
    (v.overlap x bs₁).world.cursors.find? token = some e₁ →
    (v.overlap x bs₂).world.cursors.find? token = some e₂ → e₁.offset ≤ e₂.offset

end Service

section Runs

variable {remote : σ} {clock : Nat} {bs : List (Beat σ)}

lemma inOrder_of_serial (h : v.Serial (.opening remote clock) bs token) :
    InOrder (v.overlap (.opening remote clock) bs) token := by
  induction bs using List.reverseRecOn with
  | nil => exact ⟨.nil, fun _ hfind => by cases hfind⟩
  | append_singleton bs b ih =>
    have halone := h _ (List.prefix_refl _)
    rw [Service.overlap_append] at halone ⊢
    exact (step_beat v _ b).inOrder (regular_overlap v remote clock bs)
      (ih fun bs' hbs' => h bs' (hbs'.trans (List.prefix_append _ _))) halone

lemma serial_of_apart (h : (v.overlap (.opening remote clock) bs).Apart token) :
    v.Serial (.opening remote clock) bs token := by
  induction bs using List.reverseRecOn with
  | nil =>
    intro bs' hbs'
    obtain rfl := List.prefix_nil.1 hbs'
    exact .nil
  | append_singleton bs b ih =>
    have hstep := step_beat v (v.overlap (.opening remote clock) bs) b
    rw [Service.overlap_append] at h
    have hserial := ih (hstep.apart_of h)
    intro bs' hbs'
    rcases List.prefix_concat_iff.1 hbs' with rfl | hbs'
    · rw [Service.overlap_append]
      exact hstep.alone_of (regular_overlap v remote clock bs) (inOrder_of_serial hserial)
        (hserial _ (List.prefix_refl _)) h
    · exact hserial bs' hbs'

lemma advancing_of_serial (h : v.Serial (.opening remote clock) bs token) :
    v.Advancing (.opening remote clock) bs token := by
  rintro bs₁ _ ⟨t, rfl⟩ hprefix e₁ e₂ he₁ he₂
  have hissued₁ : (v.overlap (.opening remote clock) bs₁).world.cursors.Issued token :=
    let hsound := (regular_overlap v remote clock bs₁).sound
    hsound.issued _ (hsound.find?_eq_some.1 he₁)
  -- What is held later was held before, no further.
  have hback : ∀ t, bs₁ ++ t <+: bs →
      (v.overlap (.opening remote clock) (bs₁ ++ t)).world.cursors.Issued token ∧
      ∀ e₂, (v.overlap (.opening remote clock) (bs₁ ++ t)).world.cursors.find? token = some e₂ →
        ∃ e, (v.overlap (.opening remote clock) bs₁).world.cursors.find? token = some e ∧
          e.offset ≤ e₂.offset := by
    intro t
    induction t using List.reverseRecOn with
    | nil =>
      intro _
      rw [List.append_nil]
      exact ⟨hissued₁, fun e₂ he₂ => ⟨e₂, he₂, le_rfl⟩⟩
    | append_singleton t b ih =>
      intro hprefix
      have hprefix' : bs₁ ++ t <+: bs :=
        ((List.prefix_append_right_inj bs₁).2 (List.prefix_append t [b])).trans hprefix
      have hstep := step_beat v (v.overlap (.opening remote clock) (bs₁ ++ t)) b
      obtain ⟨hissued, hheld⟩ := ih hprefix'
      rw [← List.append_assoc, Service.overlap_append]
      refine ⟨hstep.issued hissued, fun e₂ he₂ => ?_⟩
      obtain ⟨e, he, hle⟩ := hstep.offset_le (regular_overlap v remote clock _)
        (inOrder_of_serial fun bs' hbs' => h bs' (hbs'.trans hprefix')) hissued he₂
      obtain ⟨e₀, he₀, hle₀⟩ := hheld e he
      exact ⟨e₀, he₀, hle₀.trans hle⟩
  obtain ⟨e, he, hle⟩ := (hback t hprefix).2 e₂ he₂
  rwa [Option.some.inj (he₁.symm.trans he)]

end Runs

namespace Visit

variable {c : Visit}

/-- A call that attempted any message attempted the one at which its page begins. -/
lemma Proper.attempts_first (hc : c.Proper) (hrows : c.sheet.rows ≠ []) :
    ∃ uid, c.Attempts c.sheet.snapshot.offset.toNat uid := by
  obtain ⟨row, rows, hcons⟩ := List.exists_cons_of_ne_nil hrows
  have hrow : c.sheet.rows[0]? = some row := by rw [hcons]; rfl
  obtain ⟨uid, -, huid⟩ := hc.uid_of_row hrow
  have hplace := Int.toNat_of_nonneg hc.offset
  exact ⟨uid, 0, row, hrow, by omega, huid⟩

end Visit

lemma apart_of_singlePass (hr : Regular x) (hbegun : ∀ c ∈ x.visits, c.On token → c.sheet.rows ≠ [])
    (h : x.SinglePass token) : x.Apart token := by
  refine List.Pairwise.imp_of_mem (fun {c d} hc hd hcd hcon hdon hsame => ?_) h
  obtain ⟨uid, huid⟩ := (hr.proper c hc).attempts_first (hbegun c hc hcon)
  obtain ⟨uid', huid'⟩ := (hr.proper d hd).attempts_first (hbegun d hd hdon)
  rw [← hsame] at huid'
  exact hcd hcon hdon _ uid uid' huid huid'

lemma InOrder.singlePass (hx : InOrder x token) : x.SinglePass token := by
  refine hx.order.imp fun {c d} hcd hcon hdon k uid uid' hc hd => ?_
  have hle := (hcd hcon hdon).2
  have hlt := hc.range.2
  have hge := hd.range.1
  omega

/-- Once every call on a cursor attempted a message, none was attempted by two of them exactly if
the calls did not overlap; and then the place that is kept never went back. -/
theorem Service.single_pass_iff_serial (v : Service σ) (remote : σ) (clock : Nat)
    (bs : List (Beat σ)) {x : Scene σ} (hx : x = v.overlap (.opening remote clock) bs)
    (token : String) (hbegun : ∀ c ∈ x.visits, c.On token → c.sheet.rows ≠ []) :
    (x.SinglePass token ↔ v.Serial (.opening remote clock) bs token) ∧
      (v.Serial (.opening remote clock) bs token →
        v.Advancing (.opening remote clock) bs token) := by
  subst hx
  refine ⟨⟨fun h => ?_, fun h => (inOrder_of_serial h).singlePass⟩, advancing_of_serial⟩
  exact serial_of_apart (apart_of_singlePass (regular_overlap v remote clock bs) hbegun h)

section Samples

open Sample

variable {y : Scene Exchange}

lemma begun_of_summary (h : ∀ a ∈ (summary y).1, a.2.2.1 ≠ 0) {c : Visit} (hc : c ∈ y.visits) :
    c.sheet.rows ≠ [] := by
  intro hrows
  refine h _ (List.mem_map_of_mem hc) ?_
  simp [hrows]

theorem Service.single_pass_iff_serial_of_inTurn :
    (∀ c ∈ ((service false).overlap longScene inTurn).visits, c.On "cursor-1" →
      c.sheet.rows ≠ []) ∧
    ((service false).overlap longScene inTurn).SinglePass "cursor-1" ∧
    (service false).Serial longScene inTurn "cursor-1" ∧
    (service false).Advancing longScene inTurn "cursor-1" := by
  have hsummary := summaries.1
  have hbegun : ∀ c ∈ ((service false).overlap longScene inTurn).visits, c.On "cursor-1" →
      c.sheet.rows ≠ [] :=
    fun c hc _ => begun_of_summary (by rw [hsummary]; decide) hc
  have hplaces : ((service false).overlap longScene inTurn).visits.Pairwise fun c d =>
      c.sheet.nextOffset ≤ d.sheet.snapshot.offset := by
    have hpairwise : (summary ((service false).overlap longScene inTurn)).1.Pairwise
        fun a b => a.2.1 + (a.2.2.1 : Int) ≤ b.2.1 := by
      rw [hsummary]
      decide
    exact List.pairwise_map.1 hpairwise
  have hsingle : ((service false).overlap longScene inTurn).SinglePass "cursor-1" := by
    refine hplaces.imp fun {c d} hle _ _ k uid uid' hc hd => ?_
    have hlt := hc.range.2
    have hge := hd.range.1
    omega
  obtain ⟨hiff, hadvancing⟩ := single_pass_iff_serial (service false) _ _ inTurn rfl "cursor-1"
    hbegun
  exact ⟨hbegun, hsingle, hiff.1 hsingle, hadvancing (hiff.1 hsingle)⟩

/-- Two calls with one cursor that overlap: both attempt the second message, and the one that leaves
last takes the cursor from the fourth message back to the third. -/
theorem Service.overlapping_not_single_pass :
    ¬ ((service false).overlap longScene overlapping).SinglePass "cursor-1" ∧
    ¬ (service false).Advancing longScene overlapping "cursor-1" := by
  obtain ⟨-, hsummary, hbefore, -⟩ := summaries
  constructor
  · intro hsingle
    have hregular : Regular ((service false).overlap longScene overlapping) :=
      regular_overlap (service false) _ _ overlapping
    have hapart := apart_of_singlePass hregular
      (fun c hc _ => begun_of_summary (by rw [hsummary]; decide) hc) hsingle
    have hpairwise : (summary ((service false).overlap longScene overlapping)).1.Pairwise
        fun a b => a.1 = some "cursor-1" → b.1 = some "cursor-1" → a.2.1 ≠ b.2.1 :=
      List.pairwise_map.2 (hapart.imp fun {c d} h hc hd => h (.inl hc) (.inl hd))
    rw [hsummary] at hpairwise
    exact absurd hpairwise (by decide)
  · intro hadvancing
    obtain ⟨e₁, he₁, hplace₁⟩ := Option.map_eq_some_iff.1 hbefore
    obtain ⟨e₂, he₂, hplace₂⟩ := Option.map_eq_some_iff.1 (congrArg Prod.snd hsummary)
    have hle := hadvancing _ _ (List.dropLast_prefix _) (List.prefix_refl _) e₁ e₂ he₁ he₂
    omega

end Samples

end Mailroom
