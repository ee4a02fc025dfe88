import CompileOrder.FileTree

/-!
# The tree of a system

Besides the files that a run is about there are those of the system it runs on: its
devices, the utilities that commands use, and directories that are expected to be there.
Some of them have a second name, which is a link.
-/

namespace CompileOrder.System

/-- The devices by their names. -/
def devices : List (String × Device) :=
  [("null", .null), ("zero", .zero), ("full", .full), ("random", .random), ("urandom", .random),
    ("tty", .terminal)]

/-- The directory with the devices. -/
def deviceDirectory : Node :=
  .directory (devices.map fun d => (d.1, .device d.2 { mode := 0o666 })) .ofDirectory

/-- The utilities of the system. -/
def utilities : List String :=
  ["[", "arch", "b2sum", "base32", "base64", "basename", "bash", "cat", "chgrp", "chmod",
    "chown", "cksum", "cmp", "comm", "cp", "csplit", "cut", "dash", "date", "dd", "diff", "dirname",
    "du", "echo", "egrep", "env", "expand", "expr", "factor", "false", "fgrep", "find",
    "fmt", "fold", "grep", "groups", "head", "hostname", "id", "install", "join", "link",
    "ln", "logname", "ls", "mawk", "md5sum", "mkdir", "mkfifo", "mktemp", "mv", "nice",
    "nl", "nohup", "nproc", "numfmt", "od", "paste", "pathchk", "pr", "printenv", "printf",
    "pwd", "readlink", "realpath", "rev", "rm", "rmdir", "sed", "seq", "sha1sum", "sha224sum",
    "sha256sum", "sha384sum", "sha512sum", "shred", "shuf", "sleep", "sort", "split",
    "stat", "stdbuf", "sum", "sync", "tac", "tail", "tee", "test", "timeout", "touch", "tr", "true",
    "truncate", "tsort", "tty", "uname", "unexpand", "uniq", "unlink", "wc", "which", "whoami",
    "xargs", "yes"]

/-- The utilities that have a second name. -/
def otherNames : List (String × String) := [("sh", "dash"), ("awk", "mawk")]

/-- The place of the utilities. -/
def utilityPlace : List String := ["usr", "bin"]

/-- The directory with the utilities. -/
def utilityDirectory : Node :=
  .directory (utilities.map (fun name => (name, .file [] .ofDirectory)) ++
    otherNames.map fun n => (n.1, .link n.2 { mode := 0o777 })) .ofDirectory

/-- The places of a system with what is there. -/
def places : List (List String × Node) :=
  [(utilityPlace, utilityDirectory), (["usr", "sbin"], .empty), (["usr", "local", "bin"], .empty),
    (["bin"], .link "usr/bin" { mode := 0o777 }), (["sbin"], .link "usr/sbin" { mode := 0o777 }),
    (["dev"], deviceDirectory), (["tmp"], .directory [] { mode := 0o1777 }),
    (["root"], .directory [] { mode := 0o700 }), (["etc"], .empty), (["home"], .empty),
    (["var"], .empty)]

end CompileOrder.System

namespace CompileOrder

/-- The tree with the places of the system that it does not have. -/
def FileTree.onSystem (t : FileTree) : FileTree :=
  let missing := System.places.filter fun p => (t.root.get? p.1).isNone
  { t with root := missing.foldl (fun n p => n.plant p.1 p.2) t.root }

end CompileOrder
