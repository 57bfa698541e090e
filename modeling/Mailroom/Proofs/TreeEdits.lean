import Mathlib.Data.List.Nodup
import Mathlib.Tactic.Lemma
import Mailroom.Html.Sanitize

/-!
# Edits of a tree

Sanitizing by steps that change a tree in place. A round collects the nodes that it will change
before it changes the first of them, so that by its turn a node may be gone already, together with
an element around it, or may stand among other nodes than it did. The nodes carry keys, which tell
what was collected. Three rounds, one for comments, one for dropped elements and one for all
elements that are left, come to the tree that `sanitizeAll` gives.
-/

namespace Mailroom.Html

/-- What a node is, apart from its children. -/
inductive Content where
  | text (s : String)
  | comment (s : String)
  | verbatim (kind : Verbatim) (s : String)
  | element (name : String) (attributes : List (String × String))
deriving DecidableEq, Repr

/-- A node of a tree that is being edited. It keeps its key wherever it comes to stand. -/
inductive Cell where
  | mk (key : Nat) (content : Content) (children : List Cell)
deriving Repr

mutual

def Node.size : Node → Nat
  | .text _ | .comment _ | .verbatim .. => 1
  | .element _ _ children => sizeAll children + 1

def sizeAll : List Node → Nat
  | [] => 0
  | n :: ns => n.size + sizeAll ns

end

mutual

/-- A node under edit. Keys are counted from `start` in document order. -/
def Node.keyed (start : Nat) : Node → Cell
  | .text s => .mk start (.text s) []
  | .comment s => .mk start (.comment s) []
  | .verbatim kind s => .mk start (.verbatim kind s) []
  | .element name attributes children =>
    .mk start (.element name attributes) (keyedAll (start + 1) children)

def keyedAll (start : Nat) : List Node → List Cell
  | [] => []
  | n :: ns => n.keyed start :: keyedAll (start + n.size) ns

end

mutual

def Cell.node : Cell → Node
  | .mk _ (.text s) _ => .text s
  | .mk _ (.comment s) _ => .comment s
  | .mk _ (.verbatim kind s) _ => .verbatim kind s
  | .mk _ (.element name attributes) children => .element name attributes (nodesOf children)

def nodesOf : List Cell → List Node
  | [] => []
  | c :: cs => c.node :: nodesOf cs

end

mutual

/-- The nodes of a tree in document order, each with its key. -/
def Cell.entries : Cell → List (Nat × Content)
  | .mk key content children => (key, content) :: entriesAll children

def entriesAll : List Cell → List (Nat × Content)
  | [] => []
  | c :: cs => c.entries ++ entriesAll cs

end

/-- What is done to one node: it gets another content, or its children take its place, or it goes
with its children. -/
inductive Edit where
  | become (content : Content)
  | unwrap
  | remove

def Edit.apply : Edit → Nat → List Cell → List Cell
  | .become content, key, children => [.mk key content children]
  | .unwrap, _, children => children
  | .remove, _, _ => []

mutual

/-- The nodes that take the place of a node after all nodes in it that are hit were edited. -/
def Cell.edit (hit : Nat → Content → Bool) (f : Content → Edit) : Cell → List Cell
  | .mk key content children =>
    if hit key content then (f content).apply key (editAll hit f children)
    else [.mk key content (editAll hit f children)]

def editAll (hit : Nat → Content → Bool) (f : Content → Edit) : List Cell → List Cell
  | [] => []
  | c :: cs => c.edit hit f ++ editAll hit f cs

end

/-- Edits the node with a key, if it is still there. -/
def editAt (f : Content → Edit) (key : Nat) (cs : List Cell) : List Cell :=
  editAll (fun k _ => k == key) f cs

/-- The keys of the nodes that a round is about, in document order. -/
def collect (p : Content → Bool) (cs : List Cell) : List Nat :=
  ((entriesAll cs).filter fun e => p e.2).map Prod.fst

/-- Collects nodes, then edits them one after the other. -/
def round (p : Content → Bool) (f : Content → Edit) (cs : List Cell) : List Cell :=
  (collect p cs).foldl (fun cs key => editAt f key cs) cs

namespace Content

def isComment : Content → Bool
  | comment _ => true
  | _ => false

def isElement : Content → Bool
  | element .. => true
  | _ => false

def isDropped : Content → Bool
  | element name _ => droppedElements.contains name
  | _ => false

/-- An element loses the attributes that are not kept, or is replaced by its children. -/
def tidied : Content → Edit
  | element name attributes =>
    if allowedElements.contains name then .become (.element name (attributes.filter keepsAttribute))
    else .unwrap
  | content => .become content

end Content

/-- The tree after its comments were removed, then the dropped elements, and the other elements were
tidied. -/
def edited (ns : List Node) : List Node :=
  let uncommented := round Content.isComment (fun _ => .remove) (keyedAll 0 ns)
  let reduced := round Content.isDropped (fun _ => .remove) uncommented
  nodesOf (round Content.isElement Content.tidied reduced)

section Edits

variable {hit hit' : Nat → Content → Bool} {f : Content → Edit} {key : Nat}

lemma editAll_nil : editAll hit f [] = [] := rfl

lemma editAll_append (cs ds : List Cell) :
    editAll hit f (cs ++ ds) = editAll hit f cs ++ editAll hit f ds := by
  induction cs with
  | nil => rfl
  | cons c cs ih => rw [List.cons_append, editAll, editAll, ih, List.append_assoc]

mutual

lemma Cell.edit_congr : ∀ c : Cell, (∀ e ∈ c.entries, hit e.1 e.2 = hit' e.1 e.2) →
    c.edit hit f = c.edit hit' f
  | .mk key content children, h => by
    rw [Cell.entries, List.forall_mem_cons] at h
    rw [Cell.edit, Cell.edit, h.1, editAll_congr children h.2]

lemma editAll_congr : ∀ cs : List Cell, (∀ e ∈ entriesAll cs, hit e.1 e.2 = hit' e.1 e.2) →
    editAll hit f cs = editAll hit' f cs
  | [], _ => rfl
  | c :: cs, h => by
    rw [entriesAll, List.forall_mem_append] at h
    rw [editAll, editAll, c.edit_congr h.1, editAll_congr cs h.2]

end

mutual

lemma Cell.edit_nothing : ∀ c : Cell, c.edit (fun _ _ => false) f = [c]
  | .mk key content children => by
    rw [Cell.edit, if_neg Bool.false_ne_true, editAll_nothing children]

lemma editAll_nothing : ∀ cs : List Cell, editAll (fun _ _ => false) f cs = cs
  | [] => rfl
  | c :: cs => by
    rw [editAll, c.edit_nothing, editAll_nothing cs]
    rfl

end

lemma editAt_append (cs ds : List Cell) :
    editAt f key (cs ++ ds) = editAt f key cs ++ editAt f key ds :=
  editAll_append cs ds

lemma editAll_singleton (k : Nat) (content : Content) (children : List Cell) :
    editAll hit f [.mk k content children] =
      if hit k content then (f content).apply k (editAll hit f children)
      else [.mk k content (editAll hit f children)] := by
  rw [editAll, editAll, List.append_nil, Cell.edit]

lemma editAt_singleton (k : Nat) (content : Content) (children : List Cell) :
    editAt f key [.mk k content children] =
      if k == key then (f content).apply k (editAt f key children)
      else [.mk k content (editAt f key children)] :=
  editAll_singleton k content children

/-- The edit of another node is made in what has come of this one. -/
lemma editAt_apply {k : Nat} (hk : (k == key) = false) (e : Edit) (children : List Cell) :
    editAt f key (e.apply k children) = e.apply k (editAt f key children) := by
  cases e with
  | become content =>
    rw [Edit.apply, editAt_singleton, hk]
    rfl
  | unwrap => rfl
  | remove => rfl

mutual

/-- Edits and then one more are one edit of all these nodes. -/
lemma Cell.editAt_edit (hkey : ∀ content, hit key content = false) : ∀ c : Cell,
    editAt f key (c.edit hit f) = c.edit (fun k content => hit k content || k == key) f
  | .mk k content children => by
    rw [Cell.edit, Cell.edit]
    by_cases hhit : hit k content = true
    · have hk : (k == key) = false := by
        by_contra hk
        rw [Bool.not_eq_false, beq_iff_eq] at hk
        rw [hk, hkey] at hhit
        cases hhit
      rw [if_pos hhit, if_pos (by rw [hhit, Bool.true_or]), editAt_apply hk,
        editAt_editAll hkey children]
    · rw [Bool.not_eq_true] at hhit
      rw [if_neg (by simp [hhit]), editAt_singleton, editAt_editAll hkey children, hhit,
        Bool.false_or]

lemma editAt_editAll (hkey : ∀ content, hit key content = false) : ∀ cs : List Cell,
    editAt f key (editAll hit f cs) = editAll (fun k content => hit k content || k == key) f cs
  | [] => rfl
  | c :: cs => by
    rw [editAll, editAll, editAt_append, c.editAt_edit hkey, editAt_editAll hkey cs]

end

/-- Edits of further nodes, one after the other, are one edit with those before. -/
lemma foldl_editAt {keys : List Nat} (hkeys : keys.Nodup)
    (hfresh : ∀ key ∈ keys, ∀ content, hit key content = false) (cs : List Cell) :
    keys.foldl (fun cs key => editAt f key cs) (editAll hit f cs) =
      editAll (fun k content => hit k content || keys.contains k) f cs := by
  induction keys generalizing hit with
  | nil => simp
  | cons key keys ih =>
    rw [List.nodup_cons] at hkeys
    rw [List.forall_mem_cons] at hfresh
    have hnext : ∀ key' ∈ keys, ∀ content, (hit key' content || key' == key) = false := by
      intro key' hkey' content
      rw [hfresh.2 key' hkey', Bool.false_or, beq_eq_false_iff_ne]
      exact ne_of_mem_of_not_mem hkey' hkeys.1
    rw [List.foldl_cons, editAt_editAll hfresh.1, ih hkeys.2 hnext]
    simp only [Bool.or_assoc, List.contains_cons]

end Edits

/-! ## Rounds -/

def keysOf (cs : List Cell) : List Nat :=
  (entriesAll cs).map Prod.fst

lemma entriesAll_append (cs ds : List Cell) :
    entriesAll (cs ++ ds) = entriesAll cs ++ entriesAll ds := by
  induction cs with
  | nil => rfl
  | cons c cs ih => rw [List.cons_append, entriesAll, entriesAll, ih, List.append_assoc]

lemma keysOf_append (cs ds : List Cell) : keysOf (cs ++ ds) = keysOf cs ++ keysOf ds := by
  rw [keysOf, entriesAll_append, List.map_append]
  rfl

lemma keysOf_singleton (key : Nat) (content : Content) (children : List Cell) :
    keysOf [.mk key content children] = key :: keysOf children := by
  rw [keysOf, entriesAll, entriesAll, Cell.entries, List.append_nil]
  rfl

lemma keysOf_cons (c : Cell) (cs : List Cell) : keysOf (c :: cs) = keysOf [c] ++ keysOf cs :=
  keysOf_append [c] cs

lemma keysOf_apply_sublist (e : Edit) (key : Nat) (children : List Cell) :
    (keysOf (e.apply key children)).Sublist (key :: keysOf children) := by
  cases e with
  | become content =>
    rw [Edit.apply, keysOf_singleton]
  | unwrap => exact List.sublist_cons_self _ _
  | remove => exact List.nil_sublist _

mutual

lemma Cell.keysOf_edit_sublist (hit : Nat → Content → Bool) (f : Content → Edit) : ∀ c : Cell,
    (keysOf (c.edit hit f)).Sublist (keysOf [c])
  | .mk key content children => by
    have hchildren := (keysOf_editAll_sublist hit f children).cons_cons key
    rw [Cell.edit, keysOf_singleton]
    split
    · exact (keysOf_apply_sublist _ _ _).trans hchildren
    · rw [keysOf_singleton]
      exact hchildren

/-- Editing brings no keys in, and leaves their order. -/
lemma keysOf_editAll_sublist (hit : Nat → Content → Bool) (f : Content → Edit) :
    ∀ cs : List Cell, (keysOf (editAll hit f cs)).Sublist (keysOf cs)
  | [] => .slnil
  | c :: cs => by
    rw [editAll, keysOf_append, keysOf_cons]
    exact (c.keysOf_edit_sublist hit f).append (keysOf_editAll_sublist hit f cs)

end

/-- A round edits the nodes that it is about all at once. -/
lemma round_eq {cs : List Cell} (h : (keysOf cs).Nodup) (p : Content → Bool)
    (f : Content → Edit) : round p f cs = editAll (fun _ content => p content) f cs := by
  have hkeys : (collect p cs).Nodup := h.sublist (List.filter_sublist.map _)
  have hfresh : ∀ key ∈ collect p cs, ∀ content, (fun _ _ => false : Nat → Content → Bool) key
      content = false := fun _ _ _ => rfl
  have hround := foldl_editAt (f := f) hkeys hfresh cs
  rw [editAll_nothing] at hround
  rw [round, hround]
  apply editAll_congr
  intro e he
  rw [Bool.false_or, Bool.eq_iff_iff, List.contains_iff_mem, collect]
  -- Keys are distinct, so that a key that was collected belongs to no other node.
  constructor
  · intro hmem
    obtain ⟨e', he', hkey⟩ := List.mem_map.1 hmem
    rw [List.mem_filter] at he'
    rw [← List.inj_on_of_nodup_map h he'.1 he hkey]
    exact he'.2
  · exact fun hp => List.mem_map.2 ⟨e, List.mem_filter.2 ⟨he, hp⟩, rfl⟩

lemma nodup_round {cs : List Cell} (h : (keysOf cs).Nodup) (p : Content → Bool)
    (f : Content → Edit) : (keysOf (round p f cs)).Nodup := by
  rw [round_eq h]
  exact h.sublist (keysOf_editAll_sublist _ _ cs)

mutual

lemma Node.keysOf_keyed (start : Nat) : ∀ n : Node,
    keysOf [n.keyed start] = List.range' start n.size
  | .text _ | .comment _ | .verbatim .. => rfl
  | .element name attributes children => by
    rw [Node.keyed, keysOf_singleton, keysOf_keyedAll (start + 1) children, Node.size,
      List.range'_succ]

/-- The keys of a document are counted up. -/
lemma keysOf_keyedAll (start : Nat) : ∀ ns : List Node,
    keysOf (keyedAll start ns) = List.range' start (sizeAll ns)
  | [] => rfl
  | n :: ns => by
    rw [keyedAll, keysOf_cons, n.keysOf_keyed start, keysOf_keyedAll (start + n.size) ns, sizeAll,
      List.range'_append_1]

end

mutual

lemma Node.node_keyed (start : Nat) : ∀ n : Node, (n.keyed start).node = n
  | .text _ | .comment _ | .verbatim .. => rfl
  | .element name attributes children => by
    rw [Node.keyed, Cell.node, nodesOf_keyedAll (start + 1) children]

lemma nodesOf_keyedAll (start : Nat) : ∀ ns : List Node, nodesOf (keyedAll start ns) = ns
  | [] => rfl
  | n :: ns => by rw [keyedAll, nodesOf, n.node_keyed start, nodesOf_keyedAll (start + n.size) ns]

end

lemma nodesOf_append (cs ds : List Cell) : nodesOf (cs ++ ds) = nodesOf cs ++ nodesOf ds := by
  induction cs with
  | nil => rfl
  | cons c cs ih => rw [List.cons_append, nodesOf, nodesOf, ih, List.cons_append]

/-- The three rounds, each as one edit. -/
def tidiedAll (cs : List Cell) : List Cell :=
  editAll (fun _ => Content.isElement) Content.tidied <|
    editAll (fun _ => Content.isDropped) (fun _ => .remove) <|
      editAll (fun _ => Content.isComment) (fun _ => .remove) cs

lemma tidiedAll_cons (c : Cell) (cs : List Cell) :
    tidiedAll (c :: cs) = tidiedAll [c] ++ tidiedAll cs := by
  simp only [tidiedAll, editAll, editAll_append, List.append_nil]

mutual

lemma Cell.nodesOf_tidiedAll : ∀ c : Cell, nodesOf (tidiedAll [c]) = c.node.sanitize
  | .mk key (.text s) children => by
    simp [tidiedAll, editAll_singleton, Content.isComment, Content.isDropped, Content.isElement,
      nodesOf, Cell.node, Node.sanitize]
  | .mk key (.comment s) children => by
    simp [tidiedAll, editAll_singleton, Content.isComment, Edit.apply, editAll_nil, nodesOf,
      Cell.node, Node.sanitize]
  | .mk key (.verbatim kind s) children => by
    simp [tidiedAll, editAll_singleton, Content.isComment, Content.isDropped, Content.isElement,
      nodesOf, Cell.node, Node.sanitize]
  | .mk key (.element name attributes) children => by
    have hchildren := nodesOf_tidiedAll children
    rw [tidiedAll] at hchildren
    have hcomment : (Content.element name attributes).isComment = false := rfl
    have hkind : (Content.element name attributes).isDropped = droppedElements.contains name := rfl
    have helement : (Content.element name attributes).isElement = true := rfl
    rw [Cell.node, Node.sanitize, ← hchildren, tidiedAll, editAll_singleton, hcomment,
      if_neg Bool.false_ne_true, editAll_singleton, hkind]
    by_cases hdropped : droppedElements.contains name = true
    · rw [if_pos hdropped, if_pos hdropped]
      rfl
    · rw [if_neg hdropped, if_neg hdropped, editAll_singleton, helement, if_pos rfl,
        Content.tidied]
      by_cases hallowed : allowedElements.contains name = true
      · rw [if_pos hallowed, if_pos hallowed]
        rfl
      · rw [if_neg hallowed, if_neg hallowed]
        rfl

lemma nodesOf_tidiedAll : ∀ cs : List Cell, nodesOf (tidiedAll cs) = sanitizeAll (nodesOf cs)
  | [] => rfl
  | c :: cs => by
    rw [tidiedAll_cons, nodesOf_append, c.nodesOf_tidiedAll, nodesOf_tidiedAll cs]
    rfl

end

/-- Editing in place comes to the sanitized tree. -/
theorem edited_eq (ns : List Node) : edited ns = sanitizeAll ns := by
  have hnodup : (keysOf (keyedAll 0 ns)).Nodup := by
    rw [keysOf_keyedAll]
    exact List.nodup_range'
  have huncommented := nodup_round hnodup Content.isComment fun _ => .remove
  have hreduced := nodup_round huncommented Content.isDropped fun _ => .remove
  rw [edited, round_eq hreduced, round_eq huncommented, round_eq hnodup]
  exact (nodesOf_tidiedAll _).trans (by rw [nodesOf_keyedAll])

end Mailroom.Html
