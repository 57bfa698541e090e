import Mailroom.Text.CaseTable

/-!
# Upper and lower case

Case mappings of whole texts. ASCII letters are mapped directly; all others go through the tables.
-/

namespace Mailroom.Text

/-- What holds of all ASCII codes holds of all ASCII characters. -/
theorem forall_ascii {P : Char → Prop} (h : ∀ n < 0x80, P (Char.ofNat n)) :
    ∀ c : Char, c.toNat < 0x80 → P c := by
  intro c hc
  rw [← Char.ofNat_toNat c]
  exact h c.toNat hc

def applyRuns (runs : List (Nat × Nat × Nat × Int)) (n : Nat) : Nat :=
  match runs.find? fun r => r.1 ≤ n && n ≤ r.2.1 && (n - r.1) % r.2.2.1 == 0 with
  | some r => ((n : Int) + r.2.2.2).toNat
  | none => n

/-- Upper case of one character: one to three characters. -/
def upperChar (c : Char) : List Char :=
  if c.toNat < 0x80 then
    [c.toUpper]
  else
    match longUpper.find? (·.1 == c.toNat) with
    | some (_, ns) => ns.map Char.ofNat
    | none => [Char.ofNat (applyRuns upperRuns c.toNat)]

def upper (s : String) : String :=
  String.ofList (s.toList.flatMap upperChar)

def inRanges (ranges : List (Nat × Nat)) (c : Char) : Bool :=
  ranges.any fun r => r.1 ≤ c.toNat && c.toNat ≤ r.2

/-- Whether the next character that case rules do not look through has case. -/
def nextHasCase (s : List Char) : Bool :=
  match s.dropWhile (inRanges caseIgnorableRanges) with
  | [] => false
  | c :: _ => inRanges casedRanges c

/-- Lower case of one character between the characters before it, nearest first, and those after
it. A capital sigma becomes a final one when a letter stands before it and none after it. -/
def lowerChar (before : List Char) (c : Char) (after : List Char) : List Char :=
  if c.toNat < 0x80 then
    [c.toLower]
  else if c.toNat == 0x3a3 then
    if nextHasCase before && !nextHasCase after then [Char.ofNat 0x3c2] else [Char.ofNat 0x3c3]
  else if c.toNat == 0x130 then
    ['i', Char.ofNat 0x307]
  else
    [Char.ofNat (applyRuns lowerRuns c.toNat)]

/-- Lower case of `s`, where `before` holds what stands before it, nearest first. -/
def lowerFrom (before : List Char) : List Char → List Char
  | [] => []
  | c :: r => lowerChar before c r ++ lowerFrom (c :: before) r

def lowerChars (s : List Char) : List Char :=
  lowerFrom [] s

def lower (s : String) : String :=
  String.ofList (lowerChars s.toList)

end Mailroom.Text
