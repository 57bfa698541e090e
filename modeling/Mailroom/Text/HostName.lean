import Mailroom.Charset.Punycode
import Mailroom.Text.Case
import Mailroom.Text.Fields
import Mailroom.Text.HostTable
import Mailroom.Text.Normal
import Mailroom.Text.Space

/-!
# Host names

Which texts can name a host. An ASCII label has 1 to 63 characters. Any other label is first put
into a plain form (without invisible characters, in lower case and in normal form), must then be
free of characters that have no place in names and must not mix writing directions, and has to fit
into 63 characters when written in Punycode.
-/

namespace Mailroom.Text

def foldings : List (Char × List Char) :=
  foldLines.flatMap fun line => (tableWords line).filterMap fun word =>
    match word with
    | c :: t => some (c, t)
    | [] => none

/-- A character without regard to its case. -/
def folded (c : Char) : List Char :=
  ((foldings.find? (·.1 == c)).map (·.2)).getD (lowerChar [] c [])

/-- A character of a label without regard to its case, also where its normal form has one. -/
def foldedNormal (c : Char) : List Char :=
  let once := normalForm (folded c)
  let twice := normalForm (once.flatMap folded)
  if once == twice then folded c else twice

def plainLabel (label : List Char) : List Char :=
  normalForm ((label.filter fun c => !inRanges droppedRanges c).flatMap foldedNormal)

/-- How many characters Punycode needs for the code points from `n` on, given those up to `n` as
handled: `done` is their number, `delta` what was counted since the last one written. -/
def punycodeRest (label : List Nat) (basic : Nat) : List Nat → Nat → Nat → Nat → Nat → Nat
  | [], _, _, _, _ => 0
  | m :: ms, n, done, delta, bias =>
    let start := delta + (m - n) * (done + 1)
    let (size, done, delta, bias) := label.foldl
      (fun (size, done, delta, bias) c =>
        if c < m then (size, done, delta + 1, bias)
        else if c == m then
          let digits := Charset.Punycode.digits bias (delta + 1) 0 delta
          (size + digits, done + 1, 0, Charset.Punycode.adapt delta (done == basic) (done + 1))
        else (size, done, delta, bias))
      (0, done, start, bias)
    size + punycodeRest label basic ms (m + 1) done (delta + 1) bias

def punycodeLength (label : List Char) : Nat :=
  let points := label.map Char.toNat
  let basic := (points.filter (· < 0x80)).length
  let others := ((points.filter (0x80 ≤ ·)).mergeSort (· ≤ ·)).eraseDups
  basic + (if basic == 0 then 0 else 1) + punycodeRest points basic others 0x80 basic 0 72

/-- Whether a label fits, for a host name that is not all ASCII. -/
def isUsableLabel (label : List Char) : Bool :=
  if label.all (·.toNat < 0x80) then
    !label.isEmpty && label.length < 64
  else
    let plain := plainLabel label
    let rtl := inRanges rightToLeftRanges
    if plain.any (inRanges forbiddenRanges) then false
    else if plain.any rtl &&
        (plain.any (inRanges leftToRightRanges) ||
          !(plain.head?.any rtl && plain.getLast?.any rtl)) then
      false
    else if plain.all (·.toNat < 0x80) then !plain.isEmpty && plain.length < 64
    else
      !startsWith ['x', 'n', '-', '-'] plain && punycodeLength plain + 4 < 64

def isLabelDot (c : Char) : Bool :=
  c == '.' || c.toNat == 0x3002 || c.toNat == 0xff0e || c.toNat == 0xff61

/-- Whether a text can name a host: neither empty nor begun by a point nor containing a blank, with
usable labels. The last label may be empty, so that a name can end in a point. -/
def isHostName (s : String) : Bool :=
  let cs := s.toList
  if cs.isEmpty || cs.head? == some '.' || cs.any isSpace then
    false
  else if isAscii s then
    let labels := fields '.' cs
    labels.dropLast.all (fun l => !l.isEmpty && l.length < 64) &&
      (labels.getLast?.getD []).length < 64
  else
    let labels := fields '.' (cs.map fun c => if isLabelDot c then '.' else c)
    let labels := if labels.getLast? == some [] then labels.dropLast else labels
    labels.all isUsableLabel

end Mailroom.Text
