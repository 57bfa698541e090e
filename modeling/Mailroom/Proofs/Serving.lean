import Mailroom.Imap.Exchange
import Mailroom.Proofs.CommandFootprint

/-!
# Serving

A serving program undergoes a sequence of occurrences: time passes, the other side changes by
itself, and tools are called. What one occurrence keeps, every run keeps.
-/

namespace Mailroom

open Imap

/-- Something that happens to a serving program. -/
inductive Occurrence (σ : Type) where
  | wait (milliseconds : Nat)
  | drift (f : σ → σ)
  | call (today : Moment) (tool : String) (arguments : Arguments)

namespace Service

variable {σ : Type}

/-- The world after an occurrence. What escapes from a call ends that call only. -/
def undergo (v : Service σ) (w : World σ) : Occurrence σ → World σ
  | .wait n => { w with clock := w.clock + n }
  | .drift f => { w with remote := f w.remote }
  | .call today tool as => (Task.runIn w ({ v with today := today }.call tool as)).2

def after (v : Service σ) (w : World σ) (os : List (Occurrence σ)) : World σ :=
  os.foldl v.undergo w

@[simp] lemma after_cons (v : Service σ) (w : World σ) (o : Occurrence σ)
    (os : List (Occurrence σ)) : v.after w (o :: os) = v.after (v.undergo w o) os := rfl

/-- What every occurrence of a run keeps, the run keeps. -/
lemma after_keeps {v : Service σ} {I : World σ → Prop} {os : List (Occurrence σ)} {w : World σ}
    (h : ∀ o ∈ os, ∀ w, I w → I (v.undergo w o)) (hw : I w) : I (v.after w os) := by
  induction os generalizing w with
  | nil => exact hw
  | cons o os ih =>
    rw [after_cons]
    exact ih (fun o' ho' => h o' (List.mem_cons_of_mem o ho')) (h o List.mem_cons_self w hw)

/-- The commands of a call decide what the call keeps. -/
lemma undergo_call_keeps {v : Service σ} {F : Footprint} {I : World σ → Prop} {w : World σ}
    (hI : F.Stable v.peer I) {today : Moment} {tool : String} {as : Arguments}
    (hF : ∀ c, as.command tool = .ok c → F.Covers v.peer ({ v with today := today }.run c))
    (hw : I w) : I (v.undergo w (.call today tool as)) :=
  (Footprint.covers_call { v with today := today } tool as hF I hI).final hw

end Service

/-! ## A sample

One account on one host, whose inbox holds three messages. -/

namespace Sample

def message (uid : Int) (source : String) : StoredMessage :=
  ⟨uid, ascii source, [], false, false⟩

def inbox : StoredMailbox where
  name := "INBOX"
  delimiter := none
  uidvalidity := some 7
  range := none
  messages := [message 1 "Subject: one\n\n", message 2 "Subject: two\n\n", message 3 "\n"]
  nextUid := 4

/-- The host, with the time that fetching a header takes. -/
def host (delay : Nat) : Host :=
  ⟨["UIDPLUS"], [inbox], [], [(.fetchHeader, delay)]⟩

def account : Account :=
  ⟨"a", "mail", "user", "secret", 993, true⟩

def noon : Moment :=
  ⟨⟨2026, 1, 20, by decide⟩, 12, 0, 0, 0⟩

def service (writeEnabled : Bool) : Service Exchange :=
  ⟨Exchange.peer, ⟨[account], writeEnabled, 1000, 1000, 1000, 1, 2⟩, noon, fun _ => none⟩

def world (delay : Nat) : World Exchange :=
  .start ⟨[("mail", host delay)], []⟩ 0

def search (limit : Int) (cursor : Option String) : Search.Request where
  mailbox := "INBOX"
  accountId := "a"
  cursor := cursor
  query := none
  sender := none
  recipient := none
  subject := none
  unreadOnly := none
  lastDays := none
  startDate := none
  endDate := none
  limit := limit
  includeSnippet := false
  snippetMaxChars := none

end Sample

end Mailroom
