import Cgroup.Resolve.Strategy
import Cgroup.Setup

/-!
# Sessions

A session is one process on a host that may change under it. All that a process remembers is
whether the host is unified, from the first time it was asked; every other answer is made from the
host as it stands.
-/

namespace Cgroup

/-- A process, with the host that it runs on. -/
structure Session where
  /-- The host as it stands. -/
  host : Host
  /-- Whether the host is unified, once that has been asked. -/
  unified? : Option Bool

/-- What can happen in a session: the host changes, or something is asked. -/
inductive Action where
  | setFile (path : Path) (entry : FileEntry)
  | setFileSystem (path : Path) (entry : FileSystemEntry)
  /-- Asks for the record in a file. -/
  | readRecord (path : Path)
  /-- Asks for the mount table. -/
  | mountTable
  /-- Asks for the directory of the version 1 hierarchies. -/
  | v1MountPoint
  /-- Asks for the setup at a cgroup root, or at the default one. -/
  | setup (root : Option Path)
  /-- Asks whether the host is unified. -/
  | isUnified
  /-- Asks for the path of a strategy. -/
  | resolve (strategy : Strategy) (subsystem : String)
  /-- Asks for the path of a strategy against a table. -/
  | resolveIn (strategy : Strategy) (table : Table) (subsystem : String)
  /-- Asks for the directory of a cgroup. -/
  | hostPath (table : Table) (subsystem : String) (path : Path)

/-- What comes of an action. -/
inductive Answer where
  /-- The host has changed. -/
  | done
  | record (result : Except RecordError Record)
  | table (result : Except TableError Table)
  | mountPoint (result : Except TableError Path)
  | setup (result : Except SetupError Setup)
  | unified (flag : Bool)
  | path (result : Except ResolutionError Path)

/-- Whether a host is unified; one whose setup cannot be told is not. -/
def Host.isUnified (h : Host) : Bool :=
  match h.setup with
  | .ok setup => setup = .unified
  | .error _ => false

namespace Session

/-- A process that has just been started. -/
def start (h : Host) : Session := ⟨h, none⟩

/-- Whether the host is unified, as the session remembers it or finds it now. -/
def isUnified (s : Session) : Bool :=
  s.unified?.getD s.host.isUnified

/-- What an action asks of the session. -/
def answer (s : Session) : Action → Answer
  | .setFile .. | .setFileSystem .. => .done
  | .readRecord path => .record (s.host.readRecord path)
  | .mountTable => .table s.host.mountTable
  | .v1MountPoint => .mountPoint s.host.v1MountPoint
  | .setup none => .setup s.host.setup
  | .setup (some root) => .setup (s.host.setupAt root)
  | .isUnified => .unified s.isUnified
  | .resolve strategy subsystem => .path (strategy.resolve s.host subsystem)
  | .resolveIn strategy table subsystem => .path (strategy.resolveIn s.host table subsystem)
  | .hostPath table subsystem path => .path (table.hostPath subsystem path)

/-- The session after an action. -/
def next (s : Session) : Action → Session
  | .setFile path entry => { s with host := s.host.setFile path entry }
  | .setFileSystem path entry => { s with host := s.host.setFileSystem path entry }
  | .isUnified => { s with unified? := some s.isUnified }
  | _ => s

/-- The session after a sequence of actions. -/
def after (s : Session) (actions : List Action) : Session :=
  actions.foldl next s

/-- The answers to a sequence of actions. -/
def answers (s : Session) : List Action → List Answer
  | [] => []
  | action :: actions => s.answer action :: (s.next action).answers actions

end Session
end Cgroup
