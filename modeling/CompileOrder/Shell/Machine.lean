import CompileOrder.Shell.Octets
import CompileOrder.World

/-!
# What processes share

The processes of a command line act on one file tree and on channels. A channel is an
open file with the place that has been reached in it, a pipe with what has been
written into it and not yet read, a device, or one of the streams of the run. Processes
run one after the other, so the tree is seen as the one that runs sees it.
-/

namespace CompileOrder.Shell

open Text (Bytes)

/-- How an open file may be used. -/
structure Access where
  /-- Whether it can be read. -/
  reads : Bool
  /-- Whether it can be written. -/
  writes : Bool
  /-- Whether everything is written at its end. -/
  appends : Bool := false
  deriving DecidableEq, Repr

/-- Where bytes come from or go to. -/
inductive Channel where
  /-- A stream of the run. -/
  | stream (s : Stream)
  /-- A device. -/
  | device (kind : Device)
  /-- A pipe with what has not been read. -/
  | pipe (pending : Bytes)
  /-- A pipe that has a name. -/
  | namedPipe (place : List String)
  /-- An open file, used up to an offset. -/
  | file (place : List String) (offset : Nat) (access : Access)
  /-- An open file that has been removed from the tree. -/
  | removed (bytes : Bytes) (offset : Nat)
  /-- An open directory. -/
  | directory
  deriving DecidableEq, Repr

/-- What processes share. -/
structure Machine where
  /-- The file tree and what was written. -/
  world : World
  /-- The channels, by number. -/
  channels : Array Channel := #[]
  /-- The number of the next process. -/
  nextProcess : Nat := 4242
  /-- The processes that have not ended. -/
  processes : List Nat := []
  /-- The signals sent to processes that have not received them. -/
  signals : List (Nat × Nat) := []

namespace Machine

/-- The file tree. -/
def tree (m : Machine) : FileTree := m.world.tree

/-- The file tree is replaced. -/
def withTree (m : Machine) (t : FileTree) : Machine :=
  { m with world := { m.world with tree := t } }

/-- The working directory. -/
def directory (m : Machine) : List String := m.world.tree.workingDirectory

/-- The working directory is replaced. -/
def withDirectory (m : Machine) (place : List String) : Machine :=
  m.withTree { m.tree with workingDirectory := place }

/-- The time. -/
def time (m : Machine) : Time := m.tree.time

/-- The time is set. -/
def withTime (m : Machine) (time : Time) : Machine := m.withTree { m.tree with time := time }

/-- A number of milliseconds passes. -/
def pass (m : Machine) (count : Nat) : Machine := m.withTime (m.time + count * 1000000)

/-- The tree is seen again as it was on another machine: from the same directory, with the
same bits for new nodes. -/
def seenAs (m old : Machine) : Machine :=
  m.withTree { m.tree with workingDirectory := old.directory, mask := old.tree.mask }

/-- The place that a path leads to. -/
def locate (m : Machine) (path : String) : Except FileFault (List String) :=
  m.tree.locate (Octets.toText path)

/-- The node that a path leads to. -/
def find (m : Machine) (path : String) : Except FileFault Node := m.tree.find (Octets.toText path)

/-- The place of what a path names, which may be a link. -/
def locateSelf (m : Machine) (path : String) : Except FileFault (List String) :=
  m.tree.locateSelf (Octets.toText path)

/-- The node that a path names, which may be a link. -/
def findSelf (m : Machine) (path : String) : Except FileFault Node :=
  m.tree.findSelf (Octets.toText path)

/-- Whether the path names anything, be it a link that leads nowhere. -/
def names (m : Machine) (path : String) : Bool := (m.findSelf path).isOk

/-- Whether the path leads anywhere. -/
def holds (m : Machine) (path : String) : Bool := m.tree.holds (Octets.toText path)

/-- Whether the path leads to a file. -/
def isFile (m : Machine) (path : String) : Bool := m.tree.isFile (Octets.toText path)

/-- Whether the path leads to a directory. -/
def isDirectory (m : Machine) (path : String) : Bool := m.tree.isDirectory (Octets.toText path)

/-- The contents of the file that a path leads to. -/
def read (m : Machine) (path : String) : Except FileFault String :=
  (m.tree.read (Octets.toText path)).map Octets.ofBytes

/-- The names of the entries of the directory that a path leads to, in order. -/
def entries (m : Machine) (path : String) : Except FileFault (List String) := do
  match ← m.find path with
  | .directory es _ =>
    return (es.map fun e => Octets.ofText e.1).mergeSort fun a b => decide (a ≤ b)
  | _ => throw .notDirectory

/-- A channel is opened; its number is given. -/
def openChannel (m : Machine) (c : Channel) : Nat × Machine :=
  (m.channels.size, { m with channels := m.channels.push c })

/-- The channel with a number. -/
def channel (m : Machine) (i : Nat) : Channel := m.channels.getD i (.device .null)

/-- The channel with a number is replaced. -/
def setChannel (m : Machine) (i : Nat) (c : Channel) : Machine :=
  { m with channels := m.channels.setIfInBounds i c }

/-- What can be read from a channel. -/
def remaining (m : Machine) (i : Nat) : Except FileFault Bytes :=
  match m.channel i with
  | .stream _ => .ok []
  | .device kind => FileTree.readNode (.device kind .ofFile)
  | .pipe pending => .ok pending
  | .namedPipe place => .ok (m.tree.contents place)
  | .file place offset _ => .ok ((m.tree.contents place).drop offset)
  | .removed bytes offset => .ok (bytes.drop offset)
  | .directory => .error .isDirectory

/-- Bytes of a channel have been read. -/
def consume (m : Machine) (i count : Nat) : Machine :=
  match m.channel i with
  | .pipe pending => m.setChannel i (.pipe (pending.drop count))
  | .namedPipe place =>
    let rest := (m.tree.contents place).drop count
    m.withTree (m.tree.replace place rest (m.tree.root.get? place))
  | .file place offset access => m.setChannel i (.file place (offset + count) access)
  | .removed bytes offset => m.setChannel i (.removed bytes (offset + count))
  | _ => m

/-- Bytes put into others at an offset. -/
def overwrite (old : Bytes) (offset : Nat) (new : Bytes) : Bytes :=
  old.take offset ++ List.replicate (offset - old.length) 0 ++ new ++ old.drop (offset + new.length)

/-- Bytes are written to a channel, unless that is not possible. -/
def write? (m : Machine) (i : Nat) (bytes : Bytes) : Option Machine :=
  if bytes.isEmpty then some m
  else match m.channel i with
    | .stream s => some { m with world := m.world.write s bytes }
    | .device kind => if kind == .full then none else some m
    | .directory => none
    | .namedPipe place =>
      some (m.withTree (m.tree.replace place (m.tree.contents place ++ bytes)
        (m.tree.root.get? place)))
    | .pipe pending => some (m.setChannel i (.pipe (pending ++ bytes)))
    | .removed old offset =>
      some (m.setChannel i (.removed (overwrite old offset bytes) (offset + bytes.length)))
    | .file place offset access =>
      if !access.writes then none
      else
        let old := m.tree.contents place
        let offset := if access.appends then old.length else offset
        let t := m.tree.replace place (overwrite old offset bytes) (m.tree.root.get? place)
        some ((m.withTree t).setChannel i (.file place (offset + bytes.length) access))

/-- Why nothing can be written to a channel, if that is so. -/
def outputFault? (m : Machine) (channel : Option Nat) : Option FileFault :=
  match channel.map m.channel with
  | none | some .directory => some .notOpen
  | some (.device .full) => some .noRoom
  | some (.file _ _ access) => if access.writes then none else some .notOpen
  | some _ => none

/-- A file, known by its path, gets these contents. -/
def writeFile (m : Machine) (path : String) (bytes : Bytes) : Except FileFault Machine := do
  let (t, place) ← m.tree.create (Octets.toText path)
  return m.withTree (← t.append place bytes)

/-- What a channel becomes when the file at a place is taken away. -/
def orphan (t : FileTree) (place : List String) : Channel → Channel
  | .file at_ offset access =>
    if place.isPrefixOf at_ then .removed (t.contents at_) offset else .file at_ offset access
  | c => c

/-- The node at a place is removed; open files keep their contents. -/
def removeAt (m : Machine) (place : List String) : Machine :=
  let m := { m with channels := m.channels.map (orphan m.tree place) }
  m.withTree (m.tree.drop place)

/-- The node at a place is put at another place; open files follow it. -/
def moveAt (m : Machine) (source target : List String) : Machine :=
  match m.tree.root.get? source with
  | none => m
  | some node =>
    let m := { m with channels := m.channels.map (orphan m.tree target) }
    let follow (c : Channel) : Channel :=
      match c with
      | .file at_ offset access =>
        if source.isPrefixOf at_ then .file (target ++ at_.drop source.length) offset access
        else .file at_ offset access
      | c => c
    let m := { m with channels := m.channels.map follow }
    m.withTree ((m.tree.drop source).put target node)

end Machine

end CompileOrder.Shell
