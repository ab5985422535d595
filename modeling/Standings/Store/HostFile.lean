import Standings.SystemError
import Standings.Text.Split

/-! # Files of the host

What a path leads to, as far as all hosts are alike: a few files and directories are on every one,
with modes that are the same everywhere; no other path is taken to lead anywhere. -/

namespace Standings

namespace Store

/-- What is found at a path. -/
inductive HostFile where
  /-- Nothing, for a reason. -/
  | missing (reason : SystemError)
  /-- A file with a mode, which tells its kind and who may do what with it. -/
  | present (mode : Nat)
  deriving DecidableEq, Repr

namespace HostFile

/-- The directories on every host that all may read and only their owner may change. -/
def openDirectories : List (List String) :=
  [[], ["bin"], ["boot"], ["dev"], ["etc"], ["home"], ["lib"], ["media"], ["mnt"], ["opt"], ["run"],
    ["sbin"], ["srv"], ["usr"], ["usr", "bin"], ["usr", "lib"], ["usr", "local"],
    ["usr", "local", "bin"], ["usr", "sbin"], ["usr", "share"], ["var"], ["var", "lib"]]

/-- The devices on every host that all may use. -/
def openDevices : List (List String) :=
  ["full", "null", "random", "urandom", "zero"].map fun name => ["dev", name]

/-- The files on every host that all may read and only their owner may change. -/
def openFiles : List (List String) :=
  ["group", "hostname", "hosts", "os-release", "passwd", "resolv.conf"].map fun name =>
    ["etc", name]

/-- The programs on every host. -/
def programs : List (List String) :=
  ["cat", "env", "ls", "sh", "true"].flatMap fun name => [["bin", name], ["usr", "bin", name]]

/-- The files on every host, with their modes. -/
def known : List (List String × Nat) :=
  openDirectories.map (·, 0o40755) ++ openDevices.map (·, 0o20666)
    ++ openFiles.map (·, 0o100644) ++ programs.map (·, 0o100755)
    ++ [(["etc", "shadow"], 0o100640), (["proc"], 0o40555), (["proc", "version"], 0o100444),
      (["root"], 0o40700), (["sys"], 0o40555), (["tmp"], 0o41777), (["var", "tmp"], 0o41777)]

/-- Whether a mode is that of a directory. -/
def isDirectory (mode : Nat) : Bool := mode / 0o10000 = 0o4

/-- The longest path, in bytes. -/
def longestPath : Nat := 4095

/-- The longest name of a file, in bytes. -/
def longestName : Nat := 255

/-- What a path leads to from a directory, of which the names on the way from the root are given
last first. -/
def follow (above : List String) : List String → HostFile
  | [] =>
    match known.lookup above.reverse with
    | some mode => .present mode
    | none => .missing .notFound
  | name :: rest =>
    match known.lookup above.reverse with
    | none => .missing .notFound
    | some mode =>
      if ¬ isDirectory mode then .missing .notDirectory
      -- An empty name is that of the directory itself.
      else if name = "" ∨ name = "." then follow above rest
      else if name = ".." then follow above.tail rest
      else if longestName < name.utf8ByteSize then .missing .nameTooLong
      else follow (name :: above) rest

/-- What names lead to from the directory in which the service runs, which has no files and is
open to its owner only. -/
def followHere : List String → HostFile
  | [] => .present 0o40700
  | name :: rest =>
    if name = "" ∨ name = "." then followHere rest
    else if longestName < name.utf8ByteSize then .missing .nameTooLong
    else .missing .notFound

/-- What is found at a path. -/
def ofPath (path : String) : HostFile :=
  if path = "" then .missing .notFound
  else if longestPath < path.utf8ByteSize then .missing .nameTooLong
  else
    let names := (Text.pieces '/' path.toList).map String.ofList
    if names.head? = some "" then follow [] names else followHere names

end HostFile

end Store

end Standings
