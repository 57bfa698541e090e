import Mathlib
import Mailroom.Proofs.AttributeNames

/-!
# Sanitized markup

What a sanitized document can hold. Sanitizing leaves text and allowed elements with allowed
attributes, and also the nodes that are written as they stand: document types, processing
instructions, declarations and CDATA sections, unless a dropped element goes with them. Where there
is none, every `<` that is written begins a tag of an allowed element.
-/

namespace Mailroom.Html

/-- An allowed attribute as it stands in a tag. -/
inductive IsAttribute : List Char → Prop
  | intro {name : String} {quote : Char} {value : List Char} (hname : name ∈ allowedAttributes)
      (hquote : quote = '"' ∨ quote = '\'') (hend : quote ∉ value) (hless : '<' ∉ value)
      (hgreater : '>' ∉ value) :
      IsAttribute (' ' :: (name.toList ++ '=' :: quote :: (value ++ [quote])))

/-- A tag of an allowed element, with allowed attributes only. -/
inductive IsTag : List Char → Prop
  | opening {name : String} {attributes : List (List Char)} (hname : name ∈ allowedElements)
      (hattributes : ∀ a ∈ attributes, IsAttribute a) :
      IsTag ('<' :: (name.toList ++ attributes.flatten ++ ['>']))
  | selfClosing {name : String} {attributes : List (List Char)} (hname : name ∈ allowedElements)
      (hattributes : ∀ a ∈ attributes, IsAttribute a) :
      IsTag ('<' :: (name.toList ++ attributes.flatten ++ ['/', '>']))
  | closing {name : String} (hname : name ∈ allowedElements) :
      IsTag ('<' :: '/' :: (name.toList ++ ['>']))

/-- Whether every `<` of a text begins a tag of an allowed element. -/
def TagsAllowed (s : List Char) : Prop :=
  ∀ before rest, s = before ++ '<' :: rest → ∃ tag after, '<' :: rest = tag ++ after ∧ IsTag tag

/-- Whether a text has no `<` or is one tag of an allowed element. -/
def IsPiece (s : List Char) : Prop :=
  '<' ∉ s ∨ IsTag s

lemma allowedElements_letters : ∀ name ∈ allowedElements,
    name.toList.head?.any Scanner.isLetter ∧ '<' ∉ name.toList := by
  decide

lemma IsAttribute.less_notMem {a : List Char} (h : IsAttribute a) : '<' ∉ a := by
  obtain ⟨hname, hquote, -, hless, -⟩ := h
  have hplain : ∀ name ∈ allowedAttributes, '<' ∉ name.toList := by decide
  rcases hquote with rfl | rfl <;> simp [hplain _ hname, hless]

lemma less_notMem_flatten {attributes : List (List Char)}
    (h : ∀ a ∈ attributes, IsAttribute a) : '<' ∉ attributes.flatten := by
  rw [List.mem_flatten]
  rintro ⟨a, ha, hless⟩
  exact (h a ha).less_notMem hless

lemma exists_letter_of_mem {name : String} (h : name ∈ allowedElements) :
    ∃ c r, name.toList = c :: r ∧ '<' ∉ c :: r ∧ c ≠ '!' ∧ c ≠ '?' := by
  obtain ⟨hletter, hless⟩ := allowedElements_letters name h
  cases hname : name.toList with
  | nil => simp [hname] at hletter
  | cons c r =>
    rw [hname] at hletter hless
    refine ⟨c, r, rfl, hless, ?_, ?_⟩ <;> rintro rfl <;> simp [Scanner.isLetter] at hletter

/-- Apart from the first character a tag holds no `<`, and neither `!` nor `?` comes second. -/
lemma IsTag.shape {tag : List Char} (h : IsTag tag) :
    ∃ c inside, tag = '<' :: c :: inside ∧ '<' ∉ c :: inside ∧ c ≠ '!' ∧ c ≠ '?' := by
  cases h with
  | opening hname hattributes | selfClosing hname hattributes =>
    obtain ⟨c, r, hletter, hless, hmarks⟩ := exists_letter_of_mem hname
    rw [hletter]
    refine ⟨c, _, rfl, ?_, hmarks⟩
    have := less_notMem_flatten hattributes
    simp_all
  | closing hname =>
    have := (allowedElements_letters _ hname).2
    exact ⟨'/', _, rfl, by simp_all, by decide, by decide⟩

lemma tagsAllowed_flatten {pieces : List (List Char)} (h : ∀ p ∈ pieces, IsPiece p) :
    TagsAllowed pieces.flatten := by
  induction pieces with
  | nil =>
    intro before rest hsplit
    simp at hsplit
  | cons p pieces ih =>
    rw [List.forall_mem_cons] at h
    intro before rest hsplit
    rw [List.flatten_cons, List.append_eq_append_iff] at hsplit
    -- The `<` stands behind the first piece, right at its end, or in it and then at its beginning.
    rcases hsplit with ⟨between, -, hrest⟩ | ⟨behind, hp, hrest⟩
    · exact ih h.2 between rest hrest
    · cases behind with
      | nil => exact ih h.2 [] rest hrest.symm
      | cons c behind =>
        obtain ⟨rfl, rfl⟩ := List.cons.inj hrest
        rcases h.1 with hplain | htag
        · exact absurd (hp ▸ by simp) hplain
        · obtain ⟨d, inside, hshape, hinside, -⟩ := htag.shape
          cases before with
          | nil => exact ⟨p, pieces.flatten, by rw [hp]; rfl, htag⟩
          | cons b before =>
            rw [hshape] at hp
            have := (List.cons.inj hp).2
            exact absurd (this ▸ by simp) hinside

/-! ## Attributes -/

lemma notMem_escape (s : String) : '<' ∉ (escape s).toList ∧ '>' ∉ (escape s).toList := by
  have hchar (c : Char) : '<' ∉ escapeChar c ∧ '>' ∉ escapeChar c := by
    unfold escapeChar
    split
    · decide
    · split
      · decide
      · split
        · decide
        · grind
  simp only [escape, String.toList_ofList, List.mem_flatMap, not_exists, not_and]
  exact ⟨fun c _ => (hchar c).1, fun c _ => (hchar c).2⟩

lemma quoteValue_eq {value : String} (hless : '<' ∉ value.toList) (hgreater : '>' ∉ value.toList) :
    ∃ quote inside, (quoteValue value).toList = quote :: (inside ++ [quote]) ∧
      (quote = '"' ∨ quote = '\'') ∧ quote ∉ inside ∧ '<' ∉ inside ∧ '>' ∉ inside := by
  unfold quoteValue
  simp only [String.contains_char_eq]
  split
  · next hdouble =>
    exact ⟨'"', value.toList, by simp, .inl rfl, by simpa using hdouble, hless, hgreater⟩
  · split
    · next hsingle =>
      exact ⟨'\'', value.toList, by simp, .inr rfl, by simpa using hsingle, hless, hgreater⟩
    · refine ⟨'"', value.toList.flatMap fun c => if c == '"' then "&quot;".toList else [c],
        by simp only [String.toList_append, String.toList_ofList]; rfl, .inl rfl, ?_, ?_, ?_⟩
      all_goals
        rw [List.mem_flatMap]
        rintro ⟨c, hc, hmem⟩
        split at hmem
        · exact absurd hmem (by decide)
        · grind

lemma isAttribute_write {a : String × String} (h : a.1 ∈ allowedAttributes) :
    IsAttribute (" " ++ a.1 ++ "=" ++ quoteValue (escape a.2)).toList := by
  obtain ⟨hless, hgreater⟩ := notMem_escape a.2
  obtain ⟨quote, inside, hvalue, hquote, hend, hless, hgreater⟩ := quoteValue_eq hless hgreater
  have hattribute := IsAttribute.intro h hquote hend hless hgreater
  simpa [hvalue] using hattribute

lemma writeAttributes_eq {attributes : List (String × String)}
    (h : ∀ a ∈ attributes, a.1 ∈ allowedAttributes) :
    ∃ written : List (List Char), (writeAttributes attributes).toList = written.flatten ∧
      ∀ w ∈ written, IsAttribute w := by
  refine ⟨((attributes.mergeSort fun a b => a.1 ≤ b.1).map fun a =>
    (" " ++ a.1 ++ "=" ++ quoteValue (escape a.2)).toList), ?_, ?_⟩
  · rw [writeAttributes, String.toList_join, List.flatMap_map, List.flatMap_def]
  · intro w hw
    obtain ⟨a, ha, rfl⟩ := List.mem_map.1 hw
    exact isAttribute_write (h a (List.mem_mergeSort.1 ha))

/-! ## Trees -/

/-- Trees of text and of allowed elements with allowed attributes. -/
inductive Node.Clean : Node → Prop
  | text (s : String) : (Node.text s).Clean
  | element {name : String} {attributes : List (String × String)} {children : List Node}
      (hname : name ∈ allowedElements) (hattributes : ∀ a ∈ attributes, a.1 ∈ allowedAttributes)
      (hchildren : ∀ n ∈ children, n.Clean) : (Node.element name attributes children).Clean

/-- Trees with a node that is written as it stands outside of dropped elements. -/
inductive Node.Shows : Node → Prop
  | verbatim (kind : Verbatim) (s : String) : (Node.verbatim kind s).Shows
  | element {name : String} {attributes : List (String × String)} {children : List Node} {n : Node}
      (hname : name ∉ droppedElements) (hn : n ∈ children) (h : n.Shows) :
      (Node.element name attributes children).Shows

lemma sanitizeAll_eq_flatMap (ns : List Node) : sanitizeAll ns = ns.flatMap Node.sanitize := by
  induction ns with
  | nil => rfl
  | cons n ns ih => rw [sanitizeAll, ih, List.flatMap_cons]

lemma writeAllOnto_eq_foldl (done : List String) (ns : List Node) :
    writeAllOnto done ns = ns.foldl Node.writeOnto done := by
  induction ns generalizing done with
  | nil => rfl
  | cons n ns ih => rw [writeAllOnto, ih, List.foldl_cons]

/-- Sanitizing leaves clean trees of a tree that shows nothing. -/
lemma Node.Named.clean {n : Node} (hnamed : n.Named) (hshows : ¬n.Shows) :
    ∀ m ∈ n.sanitize, m.Clean := by
  induction hnamed with
  | text s => simpa [Node.sanitize] using Node.Clean.text s
  | comment s => simp [Node.sanitize]
  | verbatim kind s => exact absurd (.verbatim kind s) hshows
  | @element name attributes children hattributes hchildren ih =>
    rw [Node.sanitize]
    split
    · simp
    · next hdropped =>
      rw [List.contains_iff_mem] at hdropped
      have hclean : ∀ m ∈ sanitizeAll children, m.Clean := by
        intro m hm
        rw [sanitizeAll_eq_flatMap, List.mem_flatMap] at hm
        obtain ⟨n, hn, hm⟩ := hm
        exact ih n hn (fun h => hshows (.element hdropped hn h)) m hm
      split
      · next hallowed =>
        rw [List.contains_iff_mem] at hallowed
        refine List.forall_mem_singleton.2 (.element hallowed (fun a ha => ?_) hclean)
        obtain ⟨ha, hkept⟩ := List.mem_filter.1 ha
        exact (hattributes a ha).mem_allowedAttributes hkept
      · exact hclean

lemma forall_mem_writeAllOnto {P : String → Prop} {ns : List Node} {done : List String}
    (hns : ∀ n ∈ ns, ∀ done, (∀ p ∈ done, P p) → ∀ p ∈ n.writeOnto done, P p)
    (hdone : ∀ p ∈ done, P p) : ∀ p ∈ writeAllOnto done ns, P p := by
  induction ns generalizing done with
  | nil => exact hdone
  | cons n ns ih =>
    rw [List.forall_mem_cons] at hns
    exact ih hns.2 (hns.1 done hdone)

/-- The pieces of a clean tree are escaped text and tags of allowed elements. -/
lemma Node.Clean.isPiece {n : Node} (h : n.Clean) {done : List String}
    (hdone : ∀ p ∈ done, IsPiece p.toList) : ∀ p ∈ n.writeOnto done, IsPiece p.toList := by
  induction h generalizing done with
  | text s => exact List.forall_mem_cons.2 ⟨.inl (notMem_escape s).1, hdone⟩
  | @element name attributes children hname hattributes hchildren ih =>
    obtain ⟨written, hwritten, hattributes⟩ := writeAttributes_eq hattributes
    rw [Node.writeOnto]
    split
    · refine List.forall_mem_cons.2 ⟨.inr ?_, hdone⟩
      simpa [hwritten] using IsTag.selfClosing hname hattributes
    · have hopening : ∀ p ∈ ("<" ++ name ++ writeAttributes attributes ++ ">") :: done,
          IsPiece p.toList := by
        refine List.forall_mem_cons.2 ⟨.inr ?_, hdone⟩
        simpa [hwritten] using IsTag.opening hname hattributes
      refine List.forall_mem_cons.2
        ⟨.inr ?_, forall_mem_writeAllOnto (fun n hn done hdone => ih n hn hdone) hopening⟩
      simpa using IsTag.closing hname

/-! ## What is written as it stands -/

mutual

lemma Node.subset_writeOnto (done : List String) : ∀ n : Node, done ⊆ n.writeOnto done
  | .text _ | .comment _ | .verbatim _ _ => List.subset_cons_self _ _
  | .element name attributes children => by
    rw [Node.writeOnto]
    split
    · exact List.subset_cons_self _ _
    · exact List.subset_cons_of_subset _
        (List.Subset.trans (List.subset_cons_self _ _) (subset_writeAllOnto _ children))

lemma subset_writeAllOnto (done : List String) : ∀ ns : List Node, done ⊆ writeAllOnto done ns
  | [] => List.Subset.refl _
  | n :: ns => List.Subset.trans (n.subset_writeOnto done) (subset_writeAllOnto _ ns)

end

lemma mem_writeAllOnto_sanitizeAll {ns : List Node} {n : Node} {p : String} (hn : n ∈ ns)
    (h : ∀ done, p ∈ writeAllOnto done n.sanitize) (done : List String) :
    p ∈ writeAllOnto done (sanitizeAll ns) := by
  obtain ⟨before, after, rfl⟩ := List.append_of_mem hn
  rw [sanitizeAll_eq_flatMap, List.flatMap_append, List.flatMap_cons, writeAllOnto_eq_foldl,
    List.foldl_append, List.foldl_append, ← writeAllOnto_eq_foldl, ← writeAllOnto_eq_foldl,
    ← writeAllOnto_eq_foldl]
  exact subset_writeAllOnto _ _ (h _)

/-- A tree that shows a node still does when it is sanitized. -/
lemma Node.Shows.mem_writeAllOnto {n : Node} (h : n.Shows) :
    ∃ kind s, ∀ done, writeVerbatim kind s ∈ writeAllOnto done n.sanitize := by
  induction h with
  | verbatim kind s =>
    refine ⟨kind, s, fun done => ?_⟩
    simp [Node.sanitize, writeAllOnto, Node.writeOnto]
  | @element name attributes children n hname hn h ih =>
    obtain ⟨kind, s, ih⟩ := ih
    have hchildren := mem_writeAllOnto_sanitizeAll hn ih
    refine ⟨kind, s, fun done => ?_⟩
    rw [Node.sanitize, if_neg (by rwa [List.contains_iff_mem])]
    split
    · have hkept : sanitizeAll children ≠ [] := by
        intro hnone
        simpa [hnone, writeAllOnto] using hchildren []
      rw [writeAllOnto, writeAllOnto, Node.writeOnto, if_neg (by simp [hkept])]
      exact List.mem_cons_of_mem _ (hchildren _)
    · exact hchildren done

lemma writeVerbatim_eq (kind : Verbatim) (s : String) :
    ∃ c r, (writeVerbatim kind s).toList = '<' :: c :: r ∧ (c = '!' ∨ c = '?') := by
  cases kind
  all_goals
    refine ⟨_, _, by simp [writeVerbatim]; exact ⟨rfl, rfl⟩, ?_⟩
    decide

lemma TagsAllowed.second {before r : List Char} {c : Char}
    (h : TagsAllowed (before ++ '<' :: c :: r)) : c ≠ '!' ∧ c ≠ '?' := by
  obtain ⟨tag, after, hsplit, htag⟩ := h before (c :: r) rfl
  obtain ⟨d, inside, rfl, -, hmarks⟩ := htag.shape
  obtain ⟨rfl, -⟩ : c = d ∧ r = inside ++ after := by simpa using hsplit
  exact hmarks

mutual

/-- A tree without its comments and without the nodes that are written as they stand. -/
def Node.bare : Node → List Node
  | .text s => [.text s]
  | .comment _ => []
  | .verbatim _ _ => []
  | .element name attributes children => [.element name attributes (bareAll children)]

def bareAll : List Node → List Node
  | [] => []
  | n :: ns => n.bare ++ bareAll ns

end

lemma sanitizeAll_append (ns ms : List Node) :
    sanitizeAll (ns ++ ms) = sanitizeAll ns ++ sanitizeAll ms := by
  simp only [sanitizeAll_eq_flatMap, List.flatMap_append]

mutual

lemma Node.sanitizeAll_bare : ∀ n : Node, ¬n.Shows → sanitizeAll n.bare = n.sanitize
  | .text _, _ | .comment _, _ => rfl
  | .verbatim kind s, h => absurd (.verbatim kind s) h
  | .element name attributes children, h => by
    rw [Node.bare, sanitizeAll, sanitizeAll, List.append_nil, Node.sanitize, Node.sanitize]
    split
    · rfl
    · next hdropped =>
      rw [List.contains_iff_mem] at hdropped
      rw [sanitizeAll_bareAll children fun n hn hs => h (.element hdropped hn hs)]

lemma sanitizeAll_bareAll : ∀ ns : List Node, (∀ n ∈ ns, ¬n.Shows) →
    sanitizeAll (bareAll ns) = sanitizeAll ns
  | [], _ => rfl
  | n :: ns, h => by
    rw [List.forall_mem_cons] at h
    rw [bareAll, sanitizeAll_append, sanitizeAll, n.sanitizeAll_bare h.1,
      sanitizeAll_bareAll ns h.2]

end

lemma tagsAllowed_write {ns : List Node} (h : ∀ n ∈ ns, n.Clean) :
    TagsAllowed (write ns).toList := by
  rw [write, String.toList_join, List.flatMap_def]
  apply tagsAllowed_flatten
  simp only [List.mem_map, List.mem_reverse]
  rintro _ ⟨p, hp, rfl⟩
  exact forall_mem_writeAllOnto (fun n hn done hdone => (h n hn).isPiece hdone) (by simp) p hp

lemma not_tagsAllowed_write {ns : List Node} {n : Node} (hn : n ∈ ns) (h : n.Shows) :
    ¬TagsAllowed (write (sanitizeAll ns)).toList := by
  obtain ⟨kind, s, hmem⟩ := h.mem_writeAllOnto
  have hpiece := List.mem_reverse.2 (mem_writeAllOnto_sanitizeAll hn hmem [])
  obtain ⟨c, r, hverbatim, hmark⟩ := writeVerbatim_eq kind s
  obtain ⟨before, after, hsplit⟩ := List.append_of_mem hpiece
  rw [write, hsplit, String.toList_join, List.flatMap_append, List.flatMap_cons, hverbatim]
  intro hallowed
  obtain ⟨hmark', hmark''⟩ := hallowed.second
  exact hmark.elim hmark' hmark''

/-- Sanitized markup has no other `<` than those of tags of allowed elements with allowed
attributes exactly if the document shows no document type, processing instruction, declaration or
CDATA section outside of dropped elements. It is then the markup of the tree without these nodes
and without comments. -/
theorem sanitize_tagsAllowed_iff {html out : String} (h : sanitize html = .ok out) :
    ∃ ns, parse html = .ok ns ∧ (TagsAllowed out.toList ↔ ∀ n ∈ ns, ¬n.Shows) ∧
      ((∀ n ∈ ns, ¬n.Shows) → out = write (sanitizeAll (bareAll ns))) := by
  unfold sanitize at h
  cases hparse : parse html with
  | error e => simp [hparse, Except.map] at h
  | ok ns =>
    obtain rfl : write (sanitizeAll ns) = out := by simpa [hparse, Except.map] using h
    refine ⟨ns, rfl, ⟨fun hallowed n hn hs => not_tagsAllowed_write hn hs hallowed, fun hs => ?_⟩,
      fun hs => by rw [sanitizeAll_bareAll ns hs]⟩
    apply tagsAllowed_write
    intro m hm
    rw [sanitizeAll_eq_flatMap, List.mem_flatMap] at hm
    obtain ⟨n, hn, hm⟩ := hm
    exact (named_parse hparse n hn).clean (hs n hn) m hm

/-- A comment goes, and so does an instruction within a dropped element. -/
theorem sanitize_tagsAllowed_iff_of_comment :
    sanitize "<p lang=en>a<!-- b --></p><svg><?c></svg>" = .ok "<p lang=\"en\">a</p>" ∧
      TagsAllowed "<p lang=\"en\">a</p>".toList := by
  have hout : sanitize "<p lang=en>a<!-- b --></p><svg><?c></svg>" =
      .ok "<p lang=\"en\">a</p>" := by cbv
  have hparse : parse "<p lang=en>a<!-- b --></p><svg><?c></svg>" =
      .ok [.element "p" [("lang", "en")] [.text "a", .comment " b "],
        .element "svg" [] [.verbatim .instruction "c"]] := by cbv
  obtain ⟨ns, hns, hiff, -⟩ := sanitize_tagsAllowed_iff hout
  obtain rfl := Except.ok.inj (hns.symm.trans hparse)
  refine ⟨hout, hiff.2 ?_⟩
  simp only [List.forall_mem_cons]
  refine ⟨?_, ?_, by simp⟩
  · rintro (_ | ⟨-, hn, hshows⟩)
    simp only [List.mem_cons, List.not_mem_nil, or_false] at hn
    rcases hn with rfl | rfl <;> cases hshows
  · rintro (_ | ⟨hname, -, -⟩)
    exact hname (by decide)

/-- A document type is written with the rest. -/
theorem doctype_not_tagsAllowed :
    sanitize "<!doctype html>x" = .ok "<!DOCTYPE html>\nx" ∧
      ¬TagsAllowed "<!DOCTYPE html>\nx".toList := by
  refine ⟨by cbv, fun hallowed => ?_⟩
  have hsplit : "<!DOCTYPE html>\nx".toList = [] ++ '<' :: '!' :: "DOCTYPE html>\nx".toList := by
    decide
  rw [hsplit] at hallowed
  exact hallowed.second.1 rfl

end Mailroom.Html
