import Mathlib.Data.List.Chain
import Mailroom.Proofs.Checks
import Mailroom.Proofs.ReadOnly
import Mailroom.Proofs.WrittenIds

/-!
# Lists of flags as they are sent

A list of flags is sent between parentheses, its flags between spaces. Flags that pass their check
have no characters in them that a server could take for the end of a flag or of the list, so that
it reads the same flags that were given. No other flags are ever sent.
-/

namespace Mailroom

open Imap

namespace Check

/-- The characters that have a meaning of their own where flags stand. -/
def special : List Char :=
  ['"', '(', ')', '\x7b', '\x7d', '\\']

lemma isFlagChar_iff {c : Char} : isFlagChar c = true ↔
    Text.isSpace c = false ∧ Text.isControl c = false ∧ c ∉ special := by
  simp [isFlagChar, special, and_assoc]

/-- What a flag is made of: at most one backslash, then an atom. -/
lemma mark_atom_of_flag {f : String} (h : flag f = .ok ()) : ∃ mark atom, f.toList = mark ++ atom ∧
    (mark = [] ∨ mark = ['\\']) ∧ atom ≠ [] ∧ ∀ c ∈ atom, isFlagChar c = true := by
  unfold flag at h
  split at h
  · cases h
  · dsimp only at h
    split at h
    · next hatom =>
      simp only [Bool.and_eq_true, Bool.not_eq_true', List.isEmpty_eq_false_iff,
        List.all_eq_true] at hatom
      have hsplit : ∃ mark, f.toList = mark ++ flagAtom f.toList ∧ (mark = [] ∨ mark = ['\\']) := by
        unfold flagAtom
        split
        · next r hr => exact ⟨['\\'], by rw [hr]; rfl, .inr rfl⟩
        · exact ⟨[], rfl, .inl rfl⟩
      obtain ⟨mark, hf, hmark⟩ := hsplit
      exact ⟨mark, _, hf, hmark, hatom.1, hatom.2⟩
    · cases h

lemma ne_nil_of_flag {f : String} (h : flag f = .ok ()) : f.toList ≠ [] := by
  obtain ⟨mark, atom, hf, -, hatom, -⟩ := mark_atom_of_flag h
  rw [hf]
  exact List.append_ne_nil_of_right_ne_nil mark hatom

lemma char_of_flag {f : String} (h : flag f = .ok ()) {c : Char} (hc : c ∈ f.toList) :
    Text.isSpace c = false ∧ Text.isControl c = false ∧ (c ∈ special → c = '\\') := by
  obtain ⟨mark, atom, hf, hmark, -, hchars⟩ := mark_atom_of_flag h
  rw [hf, List.mem_append] at hc
  rcases hc with hc | hc
  · have hbackslash : c = '\\' := by
      rcases hmark with rfl | rfl
      · exact absurd hc List.not_mem_nil
      · exact List.mem_singleton.1 hc
    subst hbackslash
    exact ⟨by decide, by decide, fun _ => rfl⟩
  · obtain ⟨hspace, hcontrol, hspecial⟩ := isFlagChar_iff.1 (hchars c hc)
    exact ⟨hspace, hcontrol, fun h => absurd h hspecial⟩

end Check

namespace Text

lemma mem_intercalate {sep c : Char} {fs : List (List Char)} (h : c ∈ [sep].intercalate fs) :
    c = sep ∨ ∃ f ∈ fs, c ∈ f := by
  induction fs with
  | nil => exact absurd h List.not_mem_nil
  | cons f fs ih =>
    cases fs with
    | nil =>
      rw [List.intercalate_singleton] at h
      exact .inr ⟨f, List.mem_cons_self, h⟩
    | cons g fs =>
      rw [List.intercalate_cons_cons, List.mem_append, List.mem_append, List.mem_singleton] at h
      rcases h with (h | h) | h
      · exact .inr ⟨f, List.mem_cons_self, h⟩
      · exact .inl h
      · exact (ih h).imp_right fun ⟨e, he, hc⟩ => ⟨e, List.mem_cons_of_mem f he, hc⟩

end Text

namespace Imap

/-- A list of flags as it is sent. -/
def flagList (fs : List String) : String :=
  "(" ++ " ".intercalate fs ++ ")"

/-- The flags between the parentheses of a list that was sent: the pieces between the spaces. If
nothing stands there, there are none. -/
def flagsWithin (s : List Char) : List String :=
  if s = [] then [] else (s.splitOn ' ').map String.ofList

/-- A character that, if it is a backslash, stands where a flag begins: behind the parenthesis or a
space. -/
def BeginsFlag (before c : Char) : Prop :=
  c = '\\' → before = '(' ∨ before = ' '

/-- A list of flags out of which nothing can break when it is sent. -/
structure Unbroken (fs : List String) : Prop where
  read : flagsWithin (flagList fs).toList.tail.dropLast = fs
  opened : (flagList fs).toList.head? = some '('
  closed : (flagList fs).toList.getLast? = some ')'
  parentheses : (flagList fs).toList.count '(' = 1 ∧ (flagList fs).toList.count ')' = 1
  clean : ∀ c ∈ (flagList fs).toList, c ≠ '"' ∧ c ≠ '\x7b' ∧ c ≠ '\x7d' ∧
    Text.isControl c = false ∧ (Text.isSpace c = true → c = ' ')
  backslash : (flagList fs).toList.IsChain BeginsFlag

section Sent

variable {fs : List String}

lemma toList_flagList (fs : List String) :
    (flagList fs).toList = '(' :: ([' '].intercalate (fs.map String.toList) ++ [')']) := by
  simp [flagList, String.toList_intercalate]

lemma flagsWithin_intercalate (h : ∀ f ∈ fs, Check.flag f = .ok ()) :
    flagsWithin ([' '].intercalate (fs.map String.toList)) = fs := by
  cases fs with
  | nil => rfl
  | cons f fs =>
    have hspace : ∀ s ∈ (f :: fs).map String.toList, ' ' ∉ s := by
      intro s hs hc
      obtain ⟨g, hg, rfl⟩ := List.mem_map.1 hs
      exact absurd (Check.char_of_flag (h g hg) hc).1 (by decide)
    have hsplit := List.splitOn_intercalate ' ' hspace (List.cons_ne_nil _ _)
    have hne : [' '].intercalate ((f :: fs).map String.toList) ≠ [] := by
      intro hnil
      rw [hnil, List.splitOn_nil, List.map_cons, List.cons.injEq] at hsplit
      exact Check.ne_nil_of_flag (h f List.mem_cons_self) hsplit.1.symm
    rw [flagsWithin, if_neg hne, hsplit, List.map_map]
    simp

lemma isChain_of_flag {f : String} (h : Check.flag f = .ok ()) : f.toList.IsChain BeginsFlag := by
  obtain ⟨mark, atom, hf, hmark, -, hchars⟩ := Check.mark_atom_of_flag h
  have hplain : ∀ a, ∀ c ∈ atom, BeginsFlag a c := by
    rintro a c hc rfl
    exact absurd (hchars _ hc) (by decide)
  have hatom : atom.IsChain BeginsFlag :=
    (List.pairwise_of_forall_mem_list fun a _ c hc => hplain a c hc).isChain
  rw [hf]
  rcases hmark with rfl | rfl
  · exact hatom
  · exact List.isChain_cons.2 ⟨fun c hc => hplain _ c (List.mem_of_mem_head? hc), hatom⟩

lemma isChain_intercalate (h : ∀ f ∈ fs, Check.flag f = .ok ()) :
    ([' '].intercalate (fs.map String.toList)).IsChain BeginsFlag := by
  induction fs with
  | nil => exact .nil
  | cons f fs ih =>
    obtain ⟨hf, hfs⟩ := List.forall_mem_cons.1 h
    cases fs with
    | nil => simpa using isChain_of_flag hf
    | cons g fs =>
      have hrest : (' ' :: [' '].intercalate ((g :: fs).map String.toList)).IsChain BeginsFlag :=
        List.isChain_cons.2 ⟨fun _ _ _ => .inr rfl, ih hfs⟩
      have hspace : ∀ a, BeginsFlag a ' ' := fun a hc => absurd hc (by decide)
      rw [List.map_cons, List.map_cons, List.intercalate_cons_cons, List.append_assoc]
      refine (isChain_of_flag hf).append hrest fun a _ c hc => ?_
      obtain rfl : ' ' = c := Option.some.inj hc
      exact hspace a

/-- A character between the parentheses is special only if it is a backslash, and blank only if it
is a space. -/
lemma char_within (h : ∀ f ∈ fs, Check.flag f = .ok ()) {c : Char}
    (hc : c ∈ [' '].intercalate (fs.map String.toList)) :
    (c ∈ Check.special → c = '\\') ∧ Text.isControl c = false ∧
      (Text.isSpace c = true → c = ' ') := by
  obtain rfl | ⟨s, hs, hc⟩ := Text.mem_intercalate hc
  · exact ⟨by decide, by decide, fun _ => rfl⟩
  · obtain ⟨f, hf, rfl⟩ := List.mem_map.1 hs
    obtain ⟨hspace, hcontrol, hspecial⟩ := Check.char_of_flag (h f hf) hc
    refine ⟨hspecial, hcontrol, fun hblank => ?_⟩
    rw [hspace] at hblank
    cases hblank

lemma notMem_within (h : ∀ f ∈ fs, Check.flag f = .ok ()) {c : Char} (hc : c ∈ Check.special)
    (hne : c ≠ '\\') : c ∉ [' '].intercalate (fs.map String.toList) :=
  fun hmem => hne ((char_within h hmem).1 hc)

/-- A list of flags that pass their check is read as it was given. It is all that stands between the
parentheses, and no character in it has a meaning of its own but for the spaces between the flags
and the backslashes at their beginnings. -/
lemma unbroken_of_forall_flag (h : ∀ f ∈ fs, Check.flag f = .ok ()) : Unbroken fs := by
  have hopen := List.count_eq_zero.2 (notMem_within h (c := '(') (by decide) (by decide))
  have hclose := List.count_eq_zero.2 (notMem_within h (c := ')') (by decide) (by decide))
  constructor
  · rw [toList_flagList, List.tail_cons, List.dropLast_concat]
    exact flagsWithin_intercalate h
  · rw [toList_flagList]
    rfl
  · rw [toList_flagList, ← List.cons_append, List.getLast?_concat]
  · simp [toList_flagList, hopen, hclose]
  · rw [toList_flagList, List.forall_mem_cons, List.forall_mem_append, List.forall_mem_singleton]
    refine ⟨by decide, fun c hc => ?_, by decide⟩
    obtain ⟨hspecial, hrest⟩ := char_within h hc
    refine ⟨?_, ?_, ?_, hrest⟩
    all_goals
      rintro rfl
      exact absurd (hspecial (by decide)) (by decide)
  · rw [toList_flagList, List.isChain_cons]
    refine ⟨fun _ _ _ => .inl rfl, (isChain_intercalate h).append (.singleton _) ?_⟩
    rintro a - c hc rfl
    cases hc

end Sent

lemma Call.flags_of_harmless {c : Call} (h : c.Harmless) : c.flags = [] := by
  cases c with
  | addFlags uid fs => exact h.elim
  | removeFlags uid fs => exact h.elim
  | _ => rfl

end Imap

namespace Footprint

variable {σ : Type} (v : Service σ)

/-- The calls whose flags pass their check. -/
def flagging : Footprint where
  calls _ c := ∀ f ∈ c.flags, Check.flag f = .ok ()
  changes _ := True

/-- Every command stores only flags that pass their check. -/
lemma covers_flagging (c : Command) : flagging.Covers v.peer (v.run c) := by
  have hquiet : ∀ k (call : Call), call.Harmless → flagging.calls k call := by
    intro k call h f hf
    rw [Call.flags_of_harmless h] at hf
    exact absurd hf List.not_mem_nil
  have hframe : ∀ k (call : Call), call.isFrame → flagging.calls k call :=
    fun k call h => hquiet k call (Call.harmless_of_isFrame h)
  have hselect : ∀ k b readOnly, flagging.calls k (.select b readOnly) := fun _ _ _ => nofun
  have hconcerns : ∀ k (call : Call) n fs, call.Concerns n fs →
      (∀ f ∈ fs, Check.flag f = .ok ()) → flagging.calls k call :=
    fun _ _ _ _ hcall hflags f hf => hflags f (hcall.2 hf)
  cases c with
  | updateFlags a m add remove =>
    refine .bind ?_ fun _ => .pure _
    exact covers_updateFlags hframe (fun k b => hselect k b false) hconcerns a m add remove
  | copy a m b d =>
    refine .bind ?_ fun _ => .pure _
    exact covers_copyMessage hframe (fun k b => hselect k b false) hconcerns
      (fun k b => hselect k b true) (fun _ _ _ => nofun) a m b d
  | move a m b =>
    refine .bind ?_ fun _ => .pure _
    exact covers_moveMessage hframe (fun k b => hselect k b false) hconcerns (fun _ => nofun) a m b
  | delete a m confirmed =>
    refine .bind ?_ fun _ => .pure _
    exact covers_deleteMessage hframe (fun k b => hselect k b false) hconcerns a m confirmed
  | _ =>
    refine (covers_run v _).mono ?_ fun _ _ => trivial
    rintro k call (h | h)
    · exact hframe k call h
    · exact hquiet k call (harmless_of_mayCall rfl h)

end Footprint

namespace Service

variable {σ : Type}

/-- The invariant of a run that stores only flags that pass their check. -/
abbrev Flagging (past : List Event) : World σ → Prop :=
  Footprint.Since past fun new => ∀ k c o, .called k c o ∈ new →
    ∀ f ∈ c.flags, Check.flag f = .ok ()

lemma undergo_flagging {v : Service σ} {past : List Event} {w : World σ} (o : Occurrence σ)
    (hw : Flagging past w) : Flagging past (v.undergo w o) := by
  cases o with
  | wait n => exact hw
  | drift f => exact hw
  | call today tool as =>
    refine undergo_call_keeps (Footprint.stable_since ?_ ?_)
      (fun c _ => Footprint.covers_flagging { v with today := today } c) hw
    · intro new k c o hc hnew k' c' o' he
      rcases List.mem_append.1 he with he | he
      · exact hnew k' c' o' he
      · cases List.mem_singleton.1 he
        exact hc
    · intro new k n hnew k' c' o' he
      rcases List.mem_append.1 he with he | he
      · exact hnew k' c' o' he
      · cases List.mem_singleton.1 he

/-- Nothing can break out of a list of flags that passes its check, and no other lists of flags go
out to mail clients, whatever is called in a run. -/
theorem sent_flags_unbroken (v : Service σ) (w : World σ) (os : List (Occurrence σ)) :
    (∀ given fs, Check.flags given = .ok fs → fs = given.getD [] ∧ Unbroken fs) ∧
      ∃ new, (v.after w os).trace = w.trace ++ new ∧
        ∀ k c o, .called k c o ∈ new → Unbroken c.flags := by
  constructor
  · intro given fs h
    obtain ⟨rfl, hflags⟩ := Check.flags_eq_ok.1 h
    exact ⟨rfl, unbroken_of_forall_flag hflags⟩
  · have hrun : Flagging w.trace (v.after w os) :=
      after_keeps (fun o _ _ => undergo_flagging o) ⟨[], by simp, by simp⟩
    exact hrun.imp fun new hnew k c o he => unbroken_of_forall_flag (hnew k c o he)

end Service

namespace Sample

/-- A flag of the system, a keyword beyond ASCII, and one with a mark that lists do not use. -/
def keywords : List String :=
  ["\\Seen", "$Größe", "a]b"]

def flaggingRun : List (Occurrence Exchange) :=
  [.call noon "imap_update_message_flags"
    [("account_id", .string "a"), ("message_id", .string "imap:a:INBOX:7:2"),
      ("add_flags", .array (keywords.map .string))]]

end Sample

namespace Service

theorem sent_flags_unbroken_of_keywords :
    Check.flags (some Sample.keywords) = .ok Sample.keywords ∧
      flagList Sample.keywords = "(\\Seen $Größe a]b)" ∧
      flagsWithin "\\Seen $Größe a]b".toList = Sample.keywords ∧
      ∃ new, ((Sample.service true).after (Sample.world 0) Sample.flaggingRun).trace =
          (Sample.world 0).trace ++ new ∧
        (∀ k c o, .called k c o ∈ new → Unbroken c.flags) ∧
        ∃ o, .called 0 (.addFlags 2 Sample.keywords) o ∈ new := by
  obtain ⟨hchecked, new, hnew, hsent⟩ :=
    sent_flags_unbroken (Sample.service true) (Sample.world 0) Sample.flaggingRun
  have hflags : Check.flags (some Sample.keywords) = .ok Sample.keywords :=
    Check.flags_eq_ok.2 ⟨rfl, by decide⟩
  have hlist : flagList Sample.keywords = "(\\Seen $Größe a]b)" := by decide
  have hread := (hchecked _ _ hflags).2.read
  rw [hlist] at hread
  refine ⟨hflags, hlist, hread, new, hnew, hsent, ?_⟩
  obtain rfl : ((Sample.service true).after (Sample.world 0) Sample.flaggingRun).trace = new := hnew
  exact ⟨_, .tail _ (.tail _ (.tail _ (.tail _ (.head _))))⟩

end Service

end Mailroom
