import Mailroom.Imap.Mailbox
import Mailroom.Proofs.Legibility
import Mailroom.Task.Searching

/-!
# Header sections

A page of a search is told the header section of each message, and a reader is told all of the
source. Both see the same fields: the section ends with a blank line, if the source has one, and no
header goes on behind a blank line.
-/

namespace Mailroom

open Imap

namespace Mail

/-! ## Lines of a source that is cut -/

lemma linesOnto_eq (done : List Line) (line : Line) (s : List UInt8) :
    linesOnto done line s = done.reverse ++ linesOnto [] line s := by
  induction s generalizing done line with
  | nil => by_cases h : line.isEmpty <;> simp [linesOnto, h]
  | cons b r ih =>
    unfold linesOnto
    split
    · rw [ih, ih [(b :: line).reverse], List.reverse_cons, List.reverse_singleton,
        List.append_assoc]
    · rw [ih]

/-- A line feed ends a line, whatever comes before and after. -/
lemma linesOnto_append_feed (line : Line) (s t : List UInt8) :
    linesOnto [] line (s ++ 0x0a :: t) = linesOnto [] line (s ++ [0x0a]) ++ lines t := by
  induction s generalizing line with
  | nil => exact linesOnto_eq [(0x0a :: line).reverse] [] t
  | cons b r ih =>
    have hnext : (r ++ 0x0a :: t).head? = (r ++ [0x0a]).head? := by cases r <;> rfl
    rw [List.cons_append, List.cons_append]
    unfold linesOnto
    rw [hnext]
    split
    · rw [linesOnto_eq, ih, linesOnto_eq [(b :: line).reverse] [] (r ++ [0x0a]), List.append_assoc]
    · exact ih _

lemma lines_append_feed (s t : List UInt8) :
    lines (s ++ 0x0a :: t) = lines (s ++ [0x0a]) ++ lines t :=
  linesOnto_append_feed [] s t

/-! ## The section and the source -/

/-- The section of a source is all of it, or it ends with a blank line and the source goes on. -/
lemma headerSectionOnto_cases (done s : List UInt8) :
    headerSectionOnto done s = done.reverse ++ s ∨
      ∃ front blank rest, (blank = [0x0a] ∨ blank = [0x0d, 0x0a]) ∧
        s = front ++ 0x0a :: blank ++ rest ∧
        headerSectionOnto done s = done.reverse ++ front ++ 0x0a :: blank := by
  induction s generalizing done with
  | nil => exact .inl (List.append_nil _).symm
  | cons b r ih =>
    unfold headerSectionOnto
    split
    · next heq => cases heq
    · next rest heq =>
      cases heq
      exact .inr ⟨[], [0x0a], rest, .inl rfl, rfl, by simp⟩
    · next rest heq =>
      cases heq
      exact .inr ⟨[], [0x0d, 0x0a], rest, .inr rfl, rfl, by simp⟩
    · next b r _ _ heq =>
      cases heq
      obtain hall | ⟨front, blank, rest, hblank, rfl, hcut⟩ := ih (b :: done)
      · exact .inl (by rw [hall, List.reverse_cons, List.append_assoc]; rfl)
      · refine .inr ⟨b :: front, blank, rest, hblank, rfl, ?_⟩
        rw [hcut, List.reverse_cons]
        simp

/-- The lines of the section begin those of the source, and if these go on a blank line is among
the former. -/
lemma lines_headerSection (m : StoredMessage) :
    ∃ rest, lines m.source = lines m.headerSection ++ rest ∧
      (rest = [] ∨ ∃ line ∈ lines m.headerSection, isHeaderLine line = false) := by
  unfold StoredMessage.headerSection
  obtain hall | ⟨front, blank, rest, hblank, hsource, hcut⟩ := headerSectionOnto_cases [] m.source
  · exact ⟨[], by rw [hall, List.append_nil]; rfl, .inl rfl⟩
  · have hsection : headerSectionOnto [] m.source = front ++ 0x0a :: blank := hcut
    refine ⟨lines rest, ?_, .inr ⟨blank, ?_, ?_⟩⟩
    · rw [hsection, hsource]
      rcases hblank with rfl | rfl
      · rw [List.append_cons front 0x0a [0x0a], List.append_assoc]
        exact lines_append_feed (front ++ [0x0a]) rest
      · have hfeed := lines_append_feed (front ++ [0x0a, 0x0d]) rest
        simpa using hfeed
    · rw [hsection, lines_append_feed]
      refine List.mem_append_right _ ?_
      rcases hblank with rfl | rfl <;> exact List.mem_singleton_self _
    · rcases hblank with rfl | rfl <;> rfl

/-- Reading a header does not look behind the first line that belongs to no header. -/
lemma takeWhile_append_of_mem {α : Type} {p : α → Bool} {xs ys : List α} {x : α} (hx : x ∈ xs)
    (hp : p x = false) : (xs ++ ys).takeWhile p = xs.takeWhile p := by
  refine List.takeWhile_append.trans (if_neg fun hall => ?_)
  have hprefix : xs.takeWhile p = xs :=
    (List.takeWhile_prefix p).eq_of_length hall
  have := List.takeWhile_eq_self_iff.1 hprefix x hx
  rw [hp] at this
  cases this

lemma fields_headerSection (m : StoredMessage) :
    (readHeader (fun _ => false) (lines m.headerSection)).1 =
      (readHeader (fun _ => false) (lines m.source)).1 := by
  obtain ⟨rest, hlines, hrest⟩ := lines_headerSection m
  unfold readHeader
  dsimp only
  simp only [Bool.not_false, Bool.true_and]
  rcases hrest with rfl | ⟨line, hline, hblank⟩
  · rw [hlines, List.append_nil]
  · rw [hlines, takeWhile_append_of_mem hline hblank]

/-! ## The header of a message that is read as a whole -/

lemma head_of_readEntity {fuel : Nat} {stops : List Stop} {t : List Char} {ls rest : List Line}
    {e : Entity} (h : readEntity (fuel + 1) stops t ls = .ok (e, rest)) :
    e.head = ⟨(readHeader (isStopped stops) ls).1, t⟩ := by
  rw [readEntity] at h
  dsimp only at h
  -- The header is read before its type tells what the body is; no kind of body changes it.
  split at h
  · obtain ⟨⟨es, rest'⟩, -, h⟩ := bind_eq_ok.1 h
    cases h
    rfl
  · split at h
    · obtain ⟨⟨inner, rest'⟩, -, h⟩ := bind_eq_ok.1 h
      cases h
      rfl
    · split at h
      · split at h
        · cases h
        · cases h
          rfl
        · split at h
          · cases h
            rfl
          · split at h
            · cases h
              rfl
            · split at h
              · cases h
                rfl
              · obtain ⟨⟨es, after, rest'⟩, -, h⟩ := bind_eq_ok.1 h
                cases h
                rfl
      · cases h
        rfl

lemma head_of_read {source : List UInt8} {e : Entity} (h : Entity.read source = .ok e) :
    e.head.fields = (readHeader (fun _ => false) (lines source)).1 := by
  unfold Entity.read at h
  dsimp only at h
  cases hread : readEntity (3 * (lines source).length + 3) [] Head.plainType (lines source) with
  | error d =>
    rw [hread] at h
    cases h
  | ok read =>
    rw [hread] at h
    cases h
    rw [head_of_readEntity hread]
    rfl

/-- A message that can be read has the header fields of its section. -/
lemma headerOf_of_readWithHeaders {m : StoredMessage} {e : Entity}
    {headers : List (String × String)}
    (h : Digest.readWithHeaders m.source = .ok (e, headers)) :
    headerOf m.headerSection = .ok headers := by
  obtain ⟨e', hentity, h⟩ := bind_eq_ok.1 h
  obtain ⟨headers', hpairs, h⟩ := bind_eq_ok.1 h
  cases h
  unfold headerOf
  rw [fields_headerSection, ← head_of_read hentity, hpairs]
  rfl

/-- What a page of a search tells of a message by its header section is what a reader is told who
gets all of its source. If the section cannot be read, neither can the message. -/
theorem headers_agree (m : StoredMessage) (o : DigestOptions) :
    (∀ d, Digest.read o m.source = .ok d → ∃ headers, headerOf m.headerSection = .ok headers ∧
      headers = d.headers ∧
      ∀ r epoch n uid flags,
        (Service.row r epoch n uid headers flags).date = d.date ∧
        (Service.row r epoch n uid headers flags).sender = d.sender ∧
        (Service.row r epoch n uid headers flags).subject = d.subject) ∧
    ∀ e, headerOf m.headerSection = .error e → e.code = .internal ∧
      ∃ e', Digest.read o m.source = .error (.refused e') ∧ e'.code = .internal := by
  constructor
  · intro d hd
    obtain ⟨e, headers, hread, -, hshows⟩ := read_eq_ok_iff.1 hd
    refine ⟨headers, headerOf_of_readWithHeaders hread, hshows.headers.symm, ?_⟩
    intro r epoch n uid flags
    unfold Digest.date Digest.sender Digest.subject
    rw [hshows.headers]
    exact ⟨rfl, rfl, rfl⟩
  · intro e he
    have hcode : e.code = .internal := by
      unfold headerOf at he
      cases hpairs : pairs (readHeader (fun _ => false) (lines m.headerSection)).1 with
      | error d =>
        rw [hpairs] at he
        cases he
        rfl
      | ok headers =>
        rw [hpairs] at he
        cases he
    refine ⟨hcode, ?_⟩
    obtain ⟨d, -, hrefused⟩ | ⟨e', headers, hread, -⟩ := read_cases o m.source
    · exact ⟨_, hrefused, rfl⟩
    · rw [headerOf_of_readWithHeaders hread] at he
      cases he

/-- A message with a folded subject, a line that ends with a carriage return alone, and a body in
which another blank line stands. -/
def foldedMessage : StoredMessage :=
  ⟨1, ascii "Subject: =?utf-8?b?w6k=?=\r\n two\nFrom: x\rDate: y\n\r\nbody\n\nTo: z", [], false,
    false⟩

/-- A message whose subject is no base64. -/
def garbledMessage : StoredMessage :=
  ⟨1, ascii "Subject: =?utf-8?b?a?=\n\nbody", [], false, false⟩

theorem headers_agree_of_foldedMessage :
    (∃ d headers, Digest.read Service.plainDigest foldedMessage.source = .ok d ∧
      headerOf foldedMessage.headerSection = .ok headers ∧ headers = d.headers ∧
      d.subject = some "é two") ∧
    ∃ e e', headerOf garbledMessage.headerSection = .error e ∧
      Digest.read Service.plainDigest garbledMessage.source = .error (.refused e') := by
  constructor
  · have hread : Digest.read Service.plainDigest foldedMessage.source =
        .ok ⟨[("Subject", "é two"), ("From", "x"), ("Date", "y")], some "body\n\nTo: z", none,
          []⟩ := by
      decide +kernel
    obtain ⟨headers, hheaders, hsame, -⟩ :=
      (headers_agree foldedMessage Service.plainDigest).1 _ hread
    exact ⟨_, headers, hread, hheaders, hsame, by decide⟩
  · have hheader : headerOf garbledMessage.headerSection =
        .error (.unreadableHeaders "Base64 decoding error") := by decide
    obtain ⟨-, e', hrefused, -⟩ := (headers_agree garbledMessage Service.plainDigest).2 _ hheader
    exact ⟨_, e', hheader, hrefused⟩

end Mail

end Mailroom
