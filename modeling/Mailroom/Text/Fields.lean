/-!
# Fields between separators

Cutting a text at every occurrence of a character and joining the pieces again, and cutting off
what is too long.
-/

namespace Mailroom.Text

/-- The pieces of a text between the occurrences of a separator: one more than it has. -/
def fields (sep : Char) : List Char → List (List Char)
  | [] => [[]]
  | c :: r =>
    if c == sep then
      [] :: fields sep r
    else
      match fields sep r with
      | [] => [[c]]
      | f :: fs => (c :: f) :: fs

def joined (sep : Char) : List (List Char) → List Char
  | [] => []
  | [f] => f
  | f :: fs => f ++ sep :: joined sep fs

theorem fields_ne_nil (sep : Char) (s : List Char) : fields sep s ≠ [] := by
  cases s with
  | nil => simp [fields]
  | cons c r =>
    unfold fields
    split
    · simp
    · split <;> simp

theorem joined_fields (sep : Char) (s : List Char) : joined sep (fields sep s) = s := by
  induction s with
  | nil => simp [fields, joined]
  | cons c r ih =>
    rcases h : fields sep r with _ | ⟨f, fs⟩
    · exact absurd h (fields_ne_nil sep r)
    · by_cases hc : c = sep <;> cases fs <;> simp_all [fields, joined]

/-- A separator that is no digit does not stand in a decimal number. -/
theorem notMem_toDigits {sep : Char} (h : sep.isDigit = false) (n : Nat) :
    sep ∉ Nat.toDigits 10 n := by
  intro hmem
  have hdigit := Nat.isDigit_of_mem_toDigits (by decide) (by decide) hmem
  rw [h] at hdigit
  cases hdigit

def startsWith (start s : List Char) : Bool :=
  start.isPrefixOf s

def contains (part : List Char) : List Char → Bool
  | [] => part.isEmpty
  | c :: r => part.isPrefixOf (c :: r) || contains part r

/-- The first `n` characters of a text; a negative `n` leaves out that many at the end. -/
def truncate (s : String) (n : Int) : String :=
  let cs := s.toList
  match n with
  | .ofNat k => String.ofList (cs.take k)
  | .negSucc k => String.ofList (cs.take (cs.length - (k + 1)))

theorem truncate_of_nonneg {s : String} {n : Int} (h : 0 ≤ n) :
    truncate s n = String.ofList (s.toList.take n.toNat) := by
  obtain ⟨k, rfl⟩ := Int.eq_ofNat_of_zero_le h
  rfl

theorem length_truncate_le {s : String} {n : Int} (h : 0 ≤ n) :
    ((truncate s n).length : Int) ≤ n := by
  rw [truncate_of_nonneg h, String.length_ofList, List.length_take]
  omega

end Mailroom.Text
