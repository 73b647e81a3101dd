import Progeny.Host.Armour
import Progeny.Host.Blocks
import Progeny.Host.Calendar
import Progeny.Host.Checksum
import Progeny.Host.Comparison.Octets
import Progeny.Host.Comparison.Trees
import Progeny.Host.Copying
import Progeny.Host.Dump
import Progeny.Host.Echo
import Progeny.Host.Editing.Run
import Progeny.Host.Expression
import Progeny.Host.Fields
import Progeny.Host.Filling
import Progeny.Host.Identity
import Progeny.Host.Lines
import Progeny.Host.Listing
import Progeny.Host.Naming
import Progeny.Host.Precedence
import Progeny.Host.Progression
import Progeny.Host.Records.Run
import Progeny.Host.Searching
import Progeny.Host.Sorting
import Progeny.Host.Testing
import Progeny.Host.Timing
import Progeny.Host.Transliteration
import Progeny.Host.Usage

/-!
# The programs of the host

Which programs there are, and which files are there before any of them has run.
-/

namespace Progeny.Host

open Text (Bytes bytesOf)

/-- The tools and their names. -/
def tools : List (String × Tool) :=
  [("true", Call.idle), ("false", fun call => { call.idle with status := 1 }),
   ("sleep", Timing.sleep),
   ("cat", Lines.cat), ("rev", Lines.rev), ("tac", Lines.tac), ("head", Lines.head), ("tail", Lines.tail),
   ("nl", Lines.nl), ("fold", Lines.fold), ("expand", Lines.expand), ("unexpand", Lines.unexpand),
   ("split", Lines.split), ("wc", Fields.wc), ("cut", Fields.cut), ("paste", Fields.paste),
   ("uniq", Fields.uniq), ("comm", Fields.comm), ("join", Fields.join),
   ("echo", Echo.echo), ("printf", Echo.printf), ("seq", Progression.seq), ("factor", Progression.factor),
   ("expr", Expression.expr), ("test", Testing.test), ("[", Testing.bracket),
   ("whoami", Identity.whoami), ("id", Identity.id), ("groups", Identity.groups), ("uname", Identity.uname),
   ("tty", Identity.tty), ("logname", Identity.logname), ("printenv", Identity.printenv),
   ("which", Identity.which), ("arch", Identity.telling "x86_64"), ("nproc", Identity.telling "4"),
   ("hostname", Identity.telling "localhost"), ("sort", Sorting.sort), ("tr", Transliteration.tr),
   ("sed", Editing.sed), ("awk", Records.awk), ("mawk", Records.awk), ("grep", Searching.grep),
   ("egrep", Searching.grepAs "-E"), ("fgrep", Searching.grepAs "-F"),
   ("basename", Naming.basename), ("dirname", Naming.dirname), ("pwd", Naming.pwd),
   ("realpath", Naming.realpath), ("readlink", Naming.readlink), ("touch", Filing.touch),
   ("truncate", Filing.truncate), ("mkfifo", Filing.mkfifo), ("mktemp", Filing.mktemp), ("mkdir", Filing.mkdir),
   ("rmdir", Filing.rmdir), ("rm", Filing.rm), ("unlink", Filing.unlink), ("link", Filing.linkTo), ("ln", Filing.ln),
   ("tee", Filing.tee), ("cp", Copying.cp), ("mv", Copying.mv), ("install", Copying.install),
   ("chmod", Permission.chmod), ("ls", Listing.ls), ("od", Dump.od), ("dd", Blocks.dd),
   ("base64", Armour.tool Armour.sixtyFour), ("base32", Armour.tool Armour.thirtyTwo), ("sum", Checksum.sum),
   ("cksum", Checksum.cksum), ("md5sum", Checksum.tool "md5"), ("sha1sum", Checksum.tool "sha1"),
   ("sha224sum", Checksum.tool "sha224"), ("sha256sum", Checksum.tool "sha256"),
   ("sha384sum", Checksum.tool "sha384"), ("sha512sum", Checksum.tool "sha512"), ("stat", Listing.stat), ("sync", Call.idle),
   ("cmp", Comparison.cmp), ("diff", Comparison.diff), ("date", Calendar.date),
   ("tsort", Precedence.tsort), ("shuf", Precedence.shuf), ("fmt", Filling.fmt), ("du", Usage.du),
   ("getconf", Usage.getconf), ("pathchk", Usage.pathchk), ("b2sum", Checksum.tool "blake2b"),
   ("users", Call.idle), ("who", Call.idle), ("vdir", Listing.listAs "-lb"), ("dir", Listing.listAs "-Cb"),
   ("chown", Call.idle), ("chgrp", Call.idle)]

/-- The programs that run other programs. -/
def runners : List String := ["sh", "dash", "env", "xargs", "timeout", "nice", "nohup", "setsid", "stdbuf", "yes", "find"]

/-- The octets that the files of programs begin with. -/
def programMark : Bytes := 0x7f :: bytesOf "ELF"

/-- The program that the content of a file is. -/
def programIn? (content : Bytes) : Option String :=
  if programMark.isPrefixOf content then some (Text.Utf8.decode (content.drop programMark.length)) else none

/-- Where scratch directories are made if nothing else is said. -/
def temporary : Path := ["tmp"]

/-- The files of the host before anything has run. -/
def initialFiles : FileTree :=
  let directories : List (Path × Nat) :=
    [(["tmp"], 0o1777), (["dev"], 0o755), (["usr"], 0o755), (["usr", "bin"], 0o755),
     (["etc"], 0o755), (["root"], 0o700), (["var"], 0o755), (["var", "tmp"], 0o1777), (["home"], 0o755)]
  let others : List Path :=
    [["boot"], ["media"], ["mnt"], ["opt"], ["proc"], ["proc", "self"], ["run"], ["srv"], ["sys"],
     ["usr", "include"], ["usr", "lib"], ["usr", "lib64"], ["usr", "local"], ["usr", "local", "bin"],
     ["usr", "local", "lib"], ["usr", "local", "sbin"], ["usr", "sbin"], ["usr", "share"], ["usr", "src"],
     ["var", "lib"], ["var", "log"]]
  let links : List (String × String) :=
    [("bin", "usr/bin"), ("lib", "usr/lib"), ("lib64", "usr/lib64"), ("sbin", "usr/sbin")]
  let devices : List (String × Device) :=
    [("null", .null), ("zero", .zero), ("full", .full), ("random", .random), ("urandom", .random), ("stdin", .descriptor 0),
     ("stdout", .descriptor 1), ("stderr", .descriptor 2)]
  let start : FileTree := {
    entries := directories.map (fun (path, mode) => (path, .directory mode)) ++
      devices.map (fun (name, device) => (["dev", name], .device device)) ++
      (List.range 10).map (fun n => (["dev", "fd", n.repr], .device (.descriptor n))) ++
      [(["dev", "fd"], .directory 0o555)] ++ links.map (fun (name, target) => ([name], .link target)) ++
      others.map (fun path => (path, .directory 0o755))
    bodies := [], fresh := 0 }
  let texts : List (String × String) :=
    [("passwd", "root:x:0:0:root:/root:/bin/bash\n"), ("group", "root:x:0:\n"), ("hostname", "localhost\n"),
     ("hosts", "127.0.0.1\tlocalhost\n"), ("shells", "/bin/sh\n/usr/bin/sh\n/bin/dash\n/usr/bin/dash\n")]
  let withTexts := texts.foldl (fun (tree : FileTree) (name, text) =>
    (tree.putFile ["etc", name] ⟨bytesOf text, 0o644, 0⟩).1) start
  let full := (tools.map (·.1) ++ runners).foldl (fun tree name =>
    (tree.putFile ["usr", "bin", name] ⟨programMark ++ bytesOf name, 0o755, 0⟩).1) withTexts
  { full with clock := 1 }

end Progeny.Host
