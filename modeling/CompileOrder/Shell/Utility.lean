import CompileOrder.Shell.Utility.Awk.Startup
import CompileOrder.Shell.Utility.Blocks
import CompileOrder.Shell.Utility.Checksums
import CompileOrder.Shell.Utility.Clock
import CompileOrder.Shell.Utility.Columns
import CompileOrder.Shell.Utility.Comparison
import CompileOrder.Shell.Utility.Dump
import CompileOrder.Shell.Utility.Expr
import CompileOrder.Shell.Utility.Figures
import CompileOrder.Shell.Utility.Grep
import CompileOrder.Shell.Utility.Joining
import CompileOrder.Shell.Utility.Launching
import CompileOrder.Shell.Utility.Linking
import CompileOrder.Shell.Utility.Making
import CompileOrder.Shell.Utility.Pages
import CompileOrder.Shell.Utility.Paragraph
import CompileOrder.Shell.Utility.Permitting
import CompileOrder.Shell.Utility.Ranking
import CompileOrder.Shell.Utility.Removing
import CompileOrder.Shell.Utility.Sections
import CompileOrder.Shell.Utility.Sed.Edit
import CompileOrder.Shell.Utility.Shuffling

/-!
# The utilities of the system

The utilities by their names.
-/

namespace CompileOrder.Shell.Utility

open Tool

/-- The utility with a name. -/
def named (launch : Launch) (name : String) : Tool Nat :=
  match name with
  | "[" => bracket
  | "arch" => arch
  | "awk" | "mawk" => Awk.awk launch
  | "b2sum" => digests .blake2b
  | "base32" => armor .fiveBits
  | "base64" => armor .sixBits
  | "basename" => basename
  | "cat" => cat
  | "chgrp" => chgrp
  | "chmod" => chmod
  | "chown" => chown
  | "cksum" => cksum
  | "cmp" => cmp
  | "comm" => comm
  | "cp" => cp
  | "csplit" => csplit
  | "cut" => cut
  | "date" => date
  | "dd" => dd
  | "diff" => diff
  | "dirname" => dirname
  | "du" => du
  | "echo" => echo
  | "egrep" => egrep
  | "env" => env launch
  | "expand" => expand
  | "expr" => expr
  | "factor" => factor
  | "false" => return 1
  | "fgrep" => fgrep
  | "find" => find launch
  | "fmt" => fmt
  | "fold" => fold
  | "grep" => grep
  | "head" => head
  | "hostname" => hostname
  | "id" => identity
  | "install" => install
  | "groups" => userGroups
  | "join" => join
  | "link" => link
  | "ln" => ln
  | "logname" => logname
  | "ls" => ls
  | "md5sum" => digests .md5
  | "mkdir" => mkdir
  | "mkfifo" => mkfifo
  | "mktemp" => mktemp
  | "mv" => mv
  | "nice" => nice launch
  | "nl" => nl
  | "nohup" => nohup launch
  | "nproc" => nproc
  | "numfmt" => numfmt
  | "od" => od
  | "paste" => paste
  | "pathchk" => pathchk
  | "pr" => pr
  | "printenv" => printenv
  | "printf" => printf
  | "pwd" => workingDirectory
  | "readlink" => readlink
  | "realpath" => realpath
  | "rev" => rev
  | "rm" => rm
  | "rmdir" => rmdir
  | "sed" => Sed.sed
  | "seq" => seq
  | "sha1sum" => digests .sha1
  | "sha224sum" => digests .sha224
  | "sha256sum" => digests .sha256
  | "sha384sum" => digests .sha384
  | "sha512sum" => digests .sha512
  | "shred" => shred
  | "shuf" => shuf
  | "sleep" => sleep
  | "sort" => sort
  | "split" => split launch
  | "stat" => stat
  | "stdbuf" => stdbuf launch
  | "sum" => sum
  | "sync" => sync
  | "tac" => tac
  | "tail" => tail
  | "tee" => tee
  | "test" => testArguments
  | "timeout" => timeout launch
  | "touch" => touch
  | "tr" => tr
  | "truncate" => truncate
  | "tsort" => tsort
  | "tty" => tty
  | "uname" => uname
  | "unexpand" => unexpand
  | "uniq" => uniq
  | "unlink" => unlink
  | "wc" => wc
  | "which" => which
  | "whoami" => whoami
  | "xargs" => xargs launch
  | "yes" => yes
  | _ => return 0

/-- The utilities that let others use their output. -/
def sharing : List String := ["env", "find", "nice", "nohup", "timeout", "xargs"]

/-- What a utility says if its output is lost, and the code it ends with. -/
def outputLost (name : String) (fault : FileFault) : Tool Nat :=
  match name with
  | "awk" | "mawk" => fail 2 ("close failed on file \"/dev/stdout\" (" ++ fault.words ++ ")")
  | "diff" => fail 2 ("standard output: " ++ fault.words)
  | "expr" => fail 3 ("write error: " ++ fault.words)
  | "grep" | "egrep" | "fgrep" | "ls" => fail 2 ("write error: " ++ fault.words)
  | "sed" =>
    fail 4 ("couldn't " ++ (if fault == .notOpen then "close" else "flush") ++ " stdout: " ++
      fault.words)
  | "sort" => do
    complain ("fflush failed: 'standard output': " ++ fault.words)
    fail 2 "write error"
  | "tee" => fail 1 ("'standard output': " ++ fault.words)
  | "yes" => fail 1 ("standard output: " ++ fault.words)
  | _ => fail 1 ("write error: " ++ fault.words)

/-- A utility is run whose output is lost: it writes to a pipe that nobody reads. -/
def runUnheard (launch : Launch) (name : String) (fault : FileFault) : Tool Nat := do
  if name == "cat" && (← Tool.channel? 1).isNone then
    return ← fail 1 ("standard output: " ++ fault.words)
  let (i, m) := (← get).openChannel (.pipe [])
  set m
  let call ← read
  let others := call.descriptors.filter fun d => d.1 != 1
  let code ← (named launch name).run { call with descriptors := (1, i) :: others }
  match (← get).remaining i with
  | .ok (_ :: _) => outputLost name fault
  | _ => return code

/-- A utility is run. -/
def run (launch : Launch) (name : String) (call : Call) : StateM Machine ExitStatus := do
  let output := (call.descriptors.find? fun d => d.1 == 1).map fun d => d.2
  let m ← get
  let fault? := if sharing.contains name then none else m.outputFault? output
  let code ← match fault? with
    | none => (named launch name).run call
    | some fault => (runUnheard launch name fault).run call
  return .exited (code % 256)

end CompileOrder.Shell.Utility
