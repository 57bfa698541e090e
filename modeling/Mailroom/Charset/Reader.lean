import Mailroom.Charset.Utf8

/-!
# Reading octets in steps

Sets in which a character has several octets, or in which octets change the meaning of those after
them, are read in steps. A step tells what the octets begin with in the state that has been reached.
-/

namespace Mailroom.Charset

/-- What octets begin with: the characters, with `none` for each thing that is malformed, how many
octets belong to it beside the first, and the state behind it. -/
structure Step (σ : Type) where
  chars : List (Option Char)
  more : Nat
  state : σ

namespace Step

variable {σ : Type}

def char (s : σ) (more : Nat) (c : Char) : Step σ :=
  ⟨[some c], more, s⟩

/-- Something malformed of which there are `more` octets beside the first. -/
def malformed (s : σ) (more : Nat) : Step σ :=
  ⟨[none], more, s⟩

/-- Octets that only change the state. -/
def silent (s : σ) (more : Nat) : Step σ :=
  ⟨[], more, s⟩

end Step

variable {σ : Type}

/-- Reads octets in steps after passing over the first `skip` of them; `done` holds what has been
read, last first. Gives the state at the end too. -/
def readOnto (next : σ → UInt8 → List UInt8 → Step σ) (done : List (Option Char)) (s : σ) :
    Nat → List UInt8 → List (Option Char) × σ
  | _, [] => (done.reverse, s)
  | skip + 1, _ :: r => readOnto next done s skip r
  | 0, b :: r =>
    let step := next s b r
    readOnto next (step.chars.reverse ++ done) step.state step.more r

def read (next : σ → UInt8 → List UInt8 → Step σ) (s : σ) (octets : List UInt8) :
    List (Option Char) × σ :=
  readOnto next [] s 0 octets

/-- Reads octets in steps that depend on no state. -/
def readPlain (next : UInt8 → List UInt8 → Step Unit) (octets : List UInt8) :
    List (Option Char) :=
  (read (fun _ => next) () octets).1

/-- A step over two octets that have characters. If they have none, only the first is malformed. -/
def pair (characters : UInt8 → UInt8 → List (Option Char)) (a : UInt8) (r : List UInt8) :
    Step Unit :=
  match r with
  | [] => .malformed () 0
  | b :: _ =>
    let found := characters a b
    if found.isEmpty then .malformed () 0 else ⟨found, 1, ()⟩

end Mailroom.Charset
