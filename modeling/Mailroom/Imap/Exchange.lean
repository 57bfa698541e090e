import Mailroom.Imap.Mailbox

/-!
# Mail hosts in memory

A peer that keeps mail hosts with their mailboxes in memory. Hosts can be slow, and rules can make
calls to them fail.
-/

namespace Mailroom.Imap

/-- Makes calls of a kind fail: those about one message or all, so many times or always. -/
structure FailRule where
  verb : Verb
  uid : Option Int
  times : Option Nat
  fault : Fault
deriving DecidableEq, Repr

namespace FailRule

def fits (r : FailRule) (c : Call) : Bool :=
  r.verb == c.verb && (r.uid.isNone || r.uid == c.uid?) && r.times != some 0

def used (r : FailRule) : FailRule :=
  { r with times := r.times.map (· - 1) }

/-- The fault that the first fitting rule gives, and the rules afterwards. -/
def apply (c : Call) : List FailRule → Option Fault × List FailRule
  | [] => (none, [])
  | r :: rs =>
    if r.fits c then
      (some r.fault, r.used :: rs)
    else
      let (f, rs) := apply c rs
      (f, r :: rs)

end FailRule

/-- A mail host. Its delays are in milliseconds. -/
structure Host where
  capabilities : List String
  mailboxes : List StoredMailbox
  rules : List FailRule
  delays : List (Verb × Nat)
deriving DecidableEq, Repr

namespace Host

def mailbox? (h : Host) (name : String) : Option StoredMailbox :=
  h.mailboxes.find? (·.name == name)

def change (h : Host) (name : String) (f : StoredMailbox → StoredMailbox) : Host :=
  { h with mailboxes := h.mailboxes.map fun b => if b.name == name then f b else b }

def delay (h : Host) (v : Verb) : Nat :=
  ((h.delays.find? (·.1 == v)).map (·.2)).getD 0

end Host

/-- A client's connection: its host, and the selected mailbox with whether it may only be read. -/
structure Connection where
  host : String
  selected : Option (String × Bool)
deriving DecidableEq, Repr

/-- How a call ended, and the host and the connection afterwards. -/
structure Effect (α : Type) where
  outcome : Except Fault α
  host : Host
  connection : Connection

namespace Effect

variable {α : Type}

/-- A call that changes nothing. -/
def tells (h : Host) (k : Connection) (a : α) : Effect α :=
  ⟨.ok a, h, k⟩

def refuses (h : Host) (k : Connection) (message : String) : Effect α :=
  ⟨.error ⟨.refusal, message⟩, h, k⟩

/-- A call that changes the selected mailbox, unless that may only be read. -/
def changes (h : Host) (k : Connection) (action : String) (f : String → Effect Unit) :
    Effect Unit :=
  match k.selected with
  | some (name, false) => f name
  | _ => refuses h k s!"{action} failed: mailbox is read-only"

/-- A call that adds a message to a mailbox, which has to exist. -/
def delivers (h : Host) (k : Connection) (action mailbox : String) (after : Host) : Effect Unit :=
  if (h.mailbox? mailbox).isSome then ⟨.ok (), after, k⟩
  else refuses h k s!"{action} failed: [TRYCREATE] no such mailbox"

end Effect

namespace Host

/-- The host after a message was copied, if there is such a message. -/
def copy (h : Host) (mailbox : String) (uid : Int) (destination : String) : Host :=
  match (h.mailbox? mailbox).bind (·.message? uid) with
  | some m => h.change destination (·.receive m)
  | none => h

def found (h : Host) (k : Connection) : List Int :=
  ((k.selected.bind fun s => h.mailbox? s.1).map StoredMailbox.found).getD []

def tell (h : Host) (k : Connection) (uid : Int) (items : List FetchItem) : List (Int × Items) :=
  match (k.selected.bind fun s => h.mailbox? s.1).bind (·.message? uid) with
  | some m => [(uid, items.flatMap m.tell)]
  | none => []

def perform (h : Host) (k : Connection) : (c : Call) → Effect c.Reply
  | .connect .. => .tells h k ()
  | .login .. => .tells h k ()
  | .noop => .tells h k ()
  | .logout => .tells h k ()
  | .shutdown => .tells h k ()
  | .capabilities => .tells h k (h.capabilities.map StoredMessage.octets)
  | .listFolders => .tells h k (h.mailboxes.map fun b => ⟨b.delimiter.map .text, .text b.name⟩)
  | .select mailbox readOnly =>
    match h.mailbox? mailbox with
    | some b => ⟨.ok b.status, h, { k with selected := some (mailbox, readOnly) }⟩
    | none => .refuses h k "select failed: [NONEXISTENT] Unknown Mailbox"
  | .search .. => .tells h k ((h.found k).map .number)
  | .fetch uid items => .tells h k (h.tell k uid items)
  | .addFlags uid flags =>
    .changes h k "add_flags" fun name =>
      ⟨.ok (), h.change name (·.change uid (·.addFlags flags)), k⟩
  | .removeFlags uid flags =>
    .changes h k "remove_flags" fun name =>
      ⟨.ok (), h.change name (·.change uid (·.removeFlags flags)), k⟩
  | .expunge uid =>
    .changes h k "expunge" fun name => ⟨.ok (), h.change name (·.expunge uid), k⟩
  | .copy uid mailbox =>
    .delivers h k "copy" mailbox (h.copy ((k.selected.map (·.1)).getD "") uid mailbox)
  | .move uid mailbox =>
    .changes h k "move" fun name =>
      .delivers h k "move" mailbox ((h.copy name uid mailbox).change name (·.remove uid))
  | .append mailbox source =>
    .delivers h k "append" mailbox (h.change mailbox (·.receive ⟨0, source, [], false, false⟩))

def react (h : Host) (k : Connection) (c : Call) : Effect c.Reply :=
  let (fault, rules) := FailRule.apply c h.rules
  let h := { h with rules := rules }
  match fault with
  | some f => ⟨.error f, h, k⟩
  | none => h.perform k c

end Host

/-- All hosts by name, and the connections of the clients. -/
structure Exchange where
  hosts : List (String × Host)
  connections : List (ClientId × Connection)
deriving DecidableEq, Repr

namespace Exchange

def host? (x : Exchange) (name : String) : Option Host :=
  (x.hosts.find? (·.1 == name)).map (·.2)

def change (x : Exchange) (name : String) (f : Host → Host) : Exchange :=
  { x with hosts := x.hosts.map fun h => if h.1 == name then (h.1, f h.2) else h }

def connection (x : Exchange) (client : ClientId) : Call → Connection
  | .connect host .. => ⟨host, none⟩
  | _ => ((x.connections.find? (·.1 == client)).map (·.2)).getD ⟨"", none⟩

def unreachable : Fault :=
  ⟨.system, "no route to host"⟩

def react (client : ClientId) (c : Call) (x : Exchange) : Answer Exchange c.Reply :=
  let k := x.connection client c
  match x.host? k.host with
  | none => ⟨.error unreachable, 0, x⟩
  | some h =>
    let e := h.react k c
    ⟨e.outcome, h.delay c.verb,
      { x.change k.host (fun _ => e.host) with
        connections := (client, e.connection) :: x.connections.filter (·.1 != client) }⟩

/-- The peer that keeps hosts in memory. Deadlines are not observed. -/
def peer : Peer Exchange where
  answer := react
  setTimeout _ _ x := x

end Exchange

end Mailroom.Imap
