import Mailroom.Cursor.Store
import Mailroom.Error
import Mailroom.Imap.Client
import Mailroom.Report.Log

/-!
# Tasks

A task talks to mail clients, keeps cursors and writes log records. Its world holds the state of
the other side, the clock, the sessions given up and closed, the cursors, and all that happened so
far.
-/

namespace Mailroom

open Imap

/-- The world of the tasks. The clock shows milliseconds, and nothing but calls moves it. -/
structure World (σ : Type) where
  remote : σ
  clock : Nat
  clients : Nat
  abandoned : List ClientId
  closed : List ClientId
  cursors : Cursor.Store
  trace : List Event
  logs : List Log.Record

def World.start {σ : Type} (remote : σ) (clock : Nat) : World σ where
  remote := remote
  clock := clock
  clients := 0
  abandoned := []
  closed := []
  cursors := .empty
  trace := []
  logs := []

abbrev Task (σ : Type) := ExceptT Failure (StateM (World σ))

namespace Task

variable {σ α : Type}

def runIn (w : World σ) (t : Task σ α) : Except Failure α × World σ :=
  StateT.run t.run w

def refuse (e : Error) : Task σ α :=
  throw (.refused e)

def escape (e : Escape) : Task σ α :=
  throw (.escaped e)

def ofExcept (r : Except Failure α) : Task σ α :=
  ExceptT.mk (pure r)

def check (r : Except Error α) : Task σ α :=
  ofExcept (r.mapError .refused)

/-- Runs a task to its end, however that is. -/
def observe (t : Task σ α) : Task σ (Except Failure α) :=
  ExceptT.mk do
    return .ok (← t.run)

/-- Runs a task and hands over a refusal as a value. What escapes still does. -/
def attempt (t : Task σ α) : Task σ (Except Error α) := do
  match ← observe t with
  | .ok a => return .ok a
  | .error (.refused e) => return .error e
  | .error (.escaped e) => escape e

def log (level : Log.Level) (source : Log.Source) (message : String) : Task σ Unit :=
  modify fun w => { w with logs := w.logs ++ [⟨level, source, message⟩] }

def now : Task σ Instant := do
  return Instant.ofMillis (← get).clock

/-- Makes a call and records it. -/
def ask (p : Peer σ) (client : ClientId) (c : Call) : Task σ (Except Fault c.Reply) := do
  let w ← get
  let a := p.answer client c w.remote
  set { w with
    remote := a.next
    clock := w.clock + a.delay
    trace := w.trace ++ [Event.called client c a.outcome] }
  return a.outcome

def setTimeout (p : Peer σ) (client : ClientId) (milliseconds : Nat) : Task σ Unit :=
  modify fun w =>
    { w with
      remote := p.setTimeout client milliseconds w.remote
      trace := w.trace ++ [Event.timeoutSet client milliseconds] }

end Task

end Mailroom
