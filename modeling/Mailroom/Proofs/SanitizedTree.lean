import Mathlib
import Mailroom.Proofs.AttributeNames
import Mailroom.Proofs.TreeEdits

/-!
# Sanitized trees

What is left of a parsed document, node by node. In document order it is what stands outside of
dropped elements, without comments and without the elements that are not allowed, but with all that
they contain.
-/

namespace Mailroom.Html

mutual

/-- The nodes of a tree in document order. -/
def Node.contents : Node → List Content
  | .text s => [.text s]
  | .comment s => [.comment s]
  | .verbatim kind s => [.verbatim kind s]
  | .element name attributes children => .element name attributes :: contentsAll children

def contentsAll : List Node → List Content
  | [] => []
  | n :: ns => n.contents ++ contentsAll ns

end

mutual

/-- The nodes of a tree in document order, but for dropped elements and all that is inside them. -/
def Node.outside : Node → List Content
  | .text s => [.text s]
  | .comment s => [.comment s]
  | .verbatim kind s => [.verbatim kind s]
  | .element name attributes children =>
    if droppedElements.contains name then []
    else .element name attributes :: outsideAll children

def outsideAll : List Node → List Content
  | [] => []
  | n :: ns => n.outside ++ outsideAll ns

end

namespace Content

/-- The string of a node that is no element. -/
def string? : Content → Option String
  | text s | comment s | verbatim _ s => some s
  | element .. => none

/-- A node can stay: it is no comment, and an element is allowed with all its attributes. -/
def Tame : Content → Prop
  | comment _ => False
  | element name attributes =>
    name ∈ allowedElements ∧
      ∀ a ∈ attributes, a.1 ∈ allowedAttributes ∧ (a.1 ∈ urlAttributes → isSafeUrl a.2 = true)
  | _ => True

/-- What is left of a node, if it is not in a dropped element. -/
def rest? : Content → Option Content
  | comment _ => none
  | element name attributes =>
    if allowedElements.contains name then some (.element name (attributes.filter keepsAttribute))
    else none
  | content => some content

/-- The attributes are named as the scanner names them. -/
def Named : Content → Prop
  | element _ attributes => ∀ a ∈ attributes, IsName a.1
  | _ => True

lemma Named.tame_of_rest? {content content' : Content} (h : content.Named)
    (hrest : content.rest? = some content') : content'.Tame := by
  cases content with
  | text | verbatim =>
    cases hrest
    trivial
  | comment s => cases hrest
  | element name attributes =>
    rw [rest?] at hrest
    split at hrest
    · next hallowed =>
      cases hrest
      refine ⟨List.contains_iff_mem.1 hallowed, fun a ha => ?_⟩
      obtain ⟨ha, hkept⟩ := List.mem_filter.1 ha
      -- Names are in lower case already, so that they are checked as they will be written.
      have hname := (h a ha).mem_allowedAttributes hkept
      refine ⟨hname, fun hurl => ?_⟩
      simp only [keepsAttribute, Bool.and_eq_true, List.contains_iff_mem] at hkept
      rw [(h a ha).lower_eq (allowedAttributes_ascii _ hkept.1)] at hkept
      simpa [hurl] using hkept.2
    · cases hrest

/-- What is left of a node has its string, and comments leave nothing. -/
lemma rest?_string? (content : Content) :
    content.rest?.bind string? = if content.isComment then none else content.string? := by
  cases content with
  | text | comment | verbatim => rfl
  | element name attributes =>
    rw [rest?]
    split <;> rfl

end Content

lemma contentsAll_append (ns ms : List Node) :
    contentsAll (ns ++ ms) = contentsAll ns ++ contentsAll ms := by
  induction ns with
  | nil => rfl
  | cons n ns ih => rw [List.cons_append, contentsAll, contentsAll, ih, List.append_assoc]

mutual

lemma Node.contentsAll_sanitize : ∀ n : Node,
    contentsAll n.sanitize = n.outside.filterMap Content.rest?
  | .text _ | .comment _ | .verbatim .. => rfl
  | .element name attributes children => by
    have hchildren := contentsAll_sanitizeAll children
    rw [Node.sanitize, Node.outside]
    by_cases hdropped : droppedElements.contains name = true
    · rw [if_pos hdropped, if_pos hdropped]
      rfl
    · rw [if_neg hdropped, if_neg hdropped, List.filterMap_cons, Content.rest?]
      by_cases hallowed : allowedElements.contains name = true
      · rw [if_pos hallowed, if_pos hallowed, contentsAll, contentsAll, Node.contents, hchildren,
          List.append_nil]
      · rw [if_neg hallowed, if_neg hallowed, hchildren]

/-- In document order the sanitized tree is what is left of each node outside of dropped
elements. -/
lemma contentsAll_sanitizeAll : ∀ ns : List Node,
    contentsAll (sanitizeAll ns) = (outsideAll ns).filterMap Content.rest?
  | [] => rfl
  | n :: ns => by
    rw [sanitizeAll, contentsAll_append, n.contentsAll_sanitize, contentsAll_sanitizeAll ns,
      outsideAll, List.filterMap_append]

end

lemma outsideAll_eq_flatMap (ns : List Node) : outsideAll ns = ns.flatMap Node.outside := by
  induction ns with
  | nil => rfl
  | cons n ns ih => rw [outsideAll, List.flatMap_cons, ih]

lemma Node.Named.forall_mem_outside {n : Node} (h : n.Named) : ∀ c ∈ n.outside, c.Named := by
  induction h with
  | text | comment | verbatim => exact List.forall_mem_singleton.2 trivial
  | @element name attributes children hattributes hchildren ih =>
    rw [Node.outside]
    split
    · exact List.forall_mem_nil _
    · refine List.forall_mem_cons.2 ⟨hattributes, fun c hc => ?_⟩
      rw [outsideAll_eq_flatMap, List.mem_flatMap] at hc
      obtain ⟨n, hn, hc⟩ := hc
      exact ih n hn c hc

lemma named_outsideAll {html : String} {ns : List Node} (h : parse html = .ok ns) :
    ∀ c ∈ outsideAll ns, c.Named := by
  intro c hc
  rw [outsideAll_eq_flatMap, List.mem_flatMap] at hc
  obtain ⟨n, hn, hc⟩ := hc
  exact (named_parse h n hn).forall_mem_outside c hc

/-- The strings of a document that are neither comments nor inside of dropped elements. -/
def visibleStrings (ns : List Node) : List String :=
  ((outsideAll ns).filter fun c => !c.isComment).filterMap Content.string?

lemma filterMap_rest?_string? (cs : List Content) :
    (cs.filterMap Content.rest?).filterMap Content.string? =
      (cs.filter fun c => !c.isComment).filterMap Content.string? := by
  rw [List.filterMap_filterMap, List.filterMap_filter]
  refine List.filterMap_congr fun c _ => ?_
  rw [Content.rest?_string?]
  cases c.isComment <;> rfl

/-- The tree that is edited in place is the one that is written. Only tame nodes are left of it, in
document order what is left of each node outside of dropped elements, and all strings there but
comments. -/
theorem sanitize_writes_tame {html : String} {ns : List Node} (h : parse html = .ok ns) :
    sanitize html = .ok (write (edited ns)) ∧
      (∀ c ∈ contentsAll (edited ns), c.Tame) ∧
      contentsAll (edited ns) = (outsideAll ns).filterMap Content.rest? ∧
      (contentsAll (edited ns)).filterMap Content.string? = visibleStrings ns := by
  rw [edited_eq]
  have hcontents := contentsAll_sanitizeAll ns
  refine ⟨by rw [sanitize, h]; rfl, ?_, hcontents, ?_⟩
  · intro c hc
    rw [hcontents, List.mem_filterMap] at hc
    obtain ⟨content, hcontent, hrest⟩ := hc
    exact (named_outsideAll h content hcontent).tame_of_rest? hrest
  · rw [hcontents, filterMap_rest?_string?]
    rfl

/-- Dropped and unknown elements inside of each other and around allowed ones. -/
def nestedMarkup : String :=
  "<b>1<svg>2<form>3</form></svg><x>4<y on=1>5<svg>6</svg><a on=1 href=/>7</a></y></x></b>"

theorem sanitize_writes_tame_of_nested :
    ∃ ns, parse nestedMarkup = .ok ns ∧
      sanitize nestedMarkup = .ok "<b>145<a href=\"/\">7</a></b>" ∧
      (contentsAll (edited ns)).filterMap Content.string? = ["1", "4", "5", "7"] := by
  have hparse : parse nestedMarkup =
      .ok [.element "b" [] [.text "1",
        .element "svg" [] [.text "2", .element "form" [] [.text "3"]],
        .element "x" [] [.text "4", .element "y" [("on", "1")] [.text "5",
          .element "svg" [] [.text "6"],
          .element "a" [("on", "1"), ("href", "/")] [.text "7"]]]]] := by
    cbv
  obtain ⟨hwritten, -, -, hstrings⟩ := sanitize_writes_tame hparse
  exact ⟨_, hparse, hwritten.trans (by cbv), hstrings.trans (by decide)⟩

end Mailroom.Html
