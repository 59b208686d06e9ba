import HermesBundle.Shell.Tools.Batches
import HermesBundle.Shell.Tools.Blocks
import HermesBundle.Shell.Tools.Calculation
import HermesBundle.Shell.Tools.Closing
import HermesBundle.Shell.Tools.Comparing
import HermesBundle.Shell.Tools.Counting
import HermesBundle.Shell.Tools.Digesting
import HermesBundle.Shell.Tools.Dumping
import HermesBundle.Shell.Tools.Editing
import HermesBundle.Shell.Tools.Encoding
import HermesBundle.Shell.Tools.Fields
import HermesBundle.Shell.Tools.Filling
import HermesBundle.Shell.Tools.Finding
import HermesBundle.Shell.Tools.Identity
import HermesBundle.Shell.Tools.Matching
import HermesBundle.Shell.Tools.Numbers
import HermesBundle.Shell.Tools.Printing
import HermesBundle.Shell.Tools.Processing
import HermesBundle.Shell.Tools.Searching
import HermesBundle.Shell.Tools.Splitting
import HermesBundle.Shell.Tools.Times
import HermesBundle.Shell.Tools.Transliteration

/-! # Tools — the programs of the standard directories -/

namespace HermesBundle.Shell

/-- The programs that work on files and their names. -/
def fileTools : List (String × Tool) :=
  [("basename", Tool.basename), ("dirname", Tool.dirname), ("readlink", Tool.readlink),
   ("realpath", Tool.realpath), ("pwd", Tool.pwd), ("mktemp", Tool.mktemp),
   ("mkdir", Tool.mkdir), ("rmdir", Tool.rmdir), ("rm", Tool.rm), ("unlink", Tool.unlink),
   ("mkfifo", Tool.mkfifo), ("chmod", Tool.chmod), ("chown", Tool.chown "chown"),
   ("chgrp", Tool.chown "chgrp"), ("truncate", Tool.truncate), ("cp", Tool.cp), ("mv", Tool.mv),
   ("ln", Tool.ln), ("link", Tool.link), ("install", Tool.install),
   ("touch", Tool.touch), ("ls", Tool.ls), ("dir", Tool.ls), ("stat", Tool.stat),
   ("find", Tool.find)]

/-- The programs that pass on what they read. -/
def passingTools : List (String × Tool) :=
  [("cat", Tool.cat), ("tac", Tool.tac), ("tee", Tool.tee), ("rev", Tool.rev), ("head", Tool.head),
   ("tail", Tool.tail), ("od", Tool.od), ("dd", Tool.dd)]

/-- The programs that count and tell the time. -/
def countingTools : List (String × Tool) :=
  [("seq", Tool.seq), ("yes", Tool.yes), ("factor", Tool.factor), ("expr", Tool.expr), ("date", Tool.date),
   ("sleep", Tool.sleep)]

/-- The programs that work on lines and their fields. -/
def lineTools : List (String × Tool) :=
  [("wc", Tool.wc), ("cut", Tool.cut), ("paste", Tool.paste), ("sort", Tool.sort),
   ("uniq", Tool.uniq), ("comm", Tool.comm), ("join", Tool.join), ("tsort", Tool.tsort),
   ("shuf", Tool.shuf), ("grep", Tool.grep), ("egrep", Tool.egrep), ("fgrep", Tool.fgrep),
   ("tr", Tool.tr), ("nl", Tool.nl), ("fold", Tool.fold), ("expand", Tool.expand),
   ("unexpand", Tool.unexpand), ("fmt", Tool.fmt),
   ("sed", Tool.sed), ("split", Tool.split), ("cmp", Tool.cmp), ("diff", Tool.diff),
   ("awk", Tool.awk), ("nawk", Tool.awk), ("mawk", Tool.awk)]

/-- The programs that write digests and codes. -/
def digestTools : List (String × Tool) :=
  [("md5sum", Tool.digestTool .md5), ("sha1sum", Tool.digestTool .sha1), ("sha224sum", Tool.digestTool .sha224),
   ("sha256sum", Tool.digestTool .sha256), ("sha384sum", Tool.digestTool .sha384),
   ("sha512sum", Tool.digestTool .sha512), ("b2sum", Tool.digestTool (.blake Tool.DigestKind.blakeLimit)),
   ("cksum", Tool.cksum), ("sum", Tool.sum), ("base64", Tool.recodeAs .usual),
   ("base32", Tool.recodeAs .capital), ("basenc", Tool.basenc)]

/-- The programs that start other programs, and that show what programs are
    given. -/
def startingTools : List (String × Tool) :=
  [("echo", Tool.echo), ("printf", Tool.printf), ("test", Tool.test), ("[", Tool.bracket),
   ("env", Tool.env), ("printenv", Tool.printenv), ("nice", Tool.nice), ("nohup", Tool.nohup),
   ("timeout", Tool.timeout),
   ("xargs", Tool.xargs)]

/-- The programs that say where and for whom they run. -/
def identityTools : List (String × Tool) :=
  [("uname", Tool.uname), ("arch", Tool.arch), ("hostname", Tool.hostname), ("hostid", Tool.hostid),
   ("whoami", Tool.whoami), ("id", Tool.identity), ("groups", Tool.groups), ("logname", Tool.logname),
   ("users", Tool.users), ("who", Tool.users), ("nproc", Tool.nproc), ("tty", Tool.tty),
   ("sync", Tool.sync), ("which", Tool.which)]

/-- The programs that do nothing but end. -/
def endingTools : List (String × Tool) :=
  [("true", fun _ => return 0), ("false", fun _ => return 1)]

/-- The programs of the system. -/
def tools : List (String × Tool) :=
  endingTools ++ fileTools ++ passingTools ++ lineTools ++ countingTools ++ digestTools
    ++ startingTools ++ identityTools

end HermesBundle.Shell
