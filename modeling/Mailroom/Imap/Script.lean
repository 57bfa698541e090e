import Mailroom.Imap.Client

/-!
# Scripted peers

A peer that answers every call with the next outcome that its script holds for that kind of call.
Calls beyond the script succeed with an empty reply.
-/

namespace Mailroom.Imap

structure Script where
  noop : List (Except Fault Unit) := []
  capabilities : List (Except Fault (List Token)) := []
  listFolders : List (Except Fault (List Folder)) := []
  select : List (Except Fault Items) := []
  search : List (Except Fault (List Token)) := []
  fetch : List (Except Fault (List (Int × Items))) := []
  addFlags : List (Except Fault Unit) := []
  removeFlags : List (Except Fault Unit) := []
  copy : List (Except Fault Unit) := []
  move : List (Except Fault Unit) := []
  expunge : List (Except Fault Unit) := []
  append : List (Except Fault Unit) := []
  logout : List (Except Fault Unit) := []
  shutdown : List (Except Fault Unit) := []

namespace Script

def next {α : Type} (rest : α) : List (Except Fault α) → Except Fault α
  | [] => .ok rest
  | outcome :: _ => outcome

def react (s : Script) : (c : Call) → Answer Script c.Reply
  | .connect .. => ⟨.ok (), 0, s⟩
  | .login .. => ⟨.ok (), 0, s⟩
  | .noop => ⟨next () s.noop, 0, { s with noop := s.noop.tail }⟩
  | .capabilities => ⟨next [] s.capabilities, 0, { s with capabilities := s.capabilities.tail }⟩
  | .listFolders => ⟨next [] s.listFolders, 0, { s with listFolders := s.listFolders.tail }⟩
  | .select .. => ⟨next [] s.select, 0, { s with select := s.select.tail }⟩
  | .search .. => ⟨next [] s.search, 0, { s with search := s.search.tail }⟩
  | .fetch .. => ⟨next [] s.fetch, 0, { s with fetch := s.fetch.tail }⟩
  | .addFlags .. => ⟨next () s.addFlags, 0, { s with addFlags := s.addFlags.tail }⟩
  | .removeFlags .. => ⟨next () s.removeFlags, 0, { s with removeFlags := s.removeFlags.tail }⟩
  | .copy .. => ⟨next () s.copy, 0, { s with copy := s.copy.tail }⟩
  | .move .. => ⟨next () s.move, 0, { s with move := s.move.tail }⟩
  | .expunge _ => ⟨next () s.expunge, 0, { s with expunge := s.expunge.tail }⟩
  | .append .. => ⟨next () s.append, 0, { s with append := s.append.tail }⟩
  | .logout => ⟨next () s.logout, 0, { s with logout := s.logout.tail }⟩
  | .shutdown => ⟨next () s.shutdown, 0, { s with shutdown := s.shutdown.tail }⟩

/-- The peer that follows a script; every client draws on the same one. -/
def peer : Peer Script where
  answer _ c s := s.react c
  setTimeout _ _ s := s

end Script

end Mailroom.Imap
