import WafWatch.Attack.Category
import WafWatch.Attack.Target
import WafWatch.Text.Scan
import WafWatch.Text.Search

/-!
This module contains the second stage of classification, which looks for the traces of attacks in the
normal form of a request target.
-/

namespace WafWatch.Heuristics

open WafWatch.Text
open WafWatch.Text.Pattern

/--
A blank or a plus sign, which stands for a blank in a query.
-/
def gap : CharSet :=
  .blankOr ['+']

def gaps : Pattern :=
  atLeastOne gap

def commandInjection : Pattern :=
  oneOf [
    inOrder [
      oneOf [.one (.these [';', '|', Char.ofNat 0x60]), lit "&&", lit "$("],
      .many .blank,
      oneOf (["ls", "cat", "id", "whoami", "uname", "wget", "curl", "nc", "bash", "sh", "ping",
        "rm", "echo", "pwd"].map lit),
      oneOf [.one (.blankOr ['+', ';', '|', '&', ')', Char.ofNat 0x60]), .atEnd]],
    inOrder [lit "/bin/", opt (lit "ba"), lit "sh"],
    lit "cmd.exe",
    lit "powershell"]

def crossSiteScripting : Pattern :=
  oneOf [
    lit "<script",
    lit "javascript:",
    inOrder [
      .wordEdge, lit "on", oneOf (["error", "load", "click", "mouseover", "focus"].map lit),
      .many .blank, lit "="],
    lit "alert(",
    lit "document.cookie",
    lit "<iframe",
    lit "<svg",
    lit "eval("]

def sqlInjection : Pattern :=
  oneOf [
    inOrder [lit "union", gaps, opt (.seq (lit "all") gaps), lit "select"],
    inOrder [.wordEdge, lit "or", gaps, lit "1", .many gap, lit "=", .many gap, lit "1"],
    inOrder [lit "select", .one gap, .many .withinLine, .one gap, lit "from"],
    inOrder [lit "insert", gaps, lit "into"],
    inOrder [lit "drop", gaps, lit "table"],
    inOrder [lit "sleep(", atLeastOne .decimal, lit ")"],
    lit "benchmark(",
    lit "information_schema",
    inOrder [lit "'", .many gap, lit "--"]]

def localFileInclusion : Pattern :=
  oneOf (["/etc/passwd", "/etc/shadow", "/proc/self", "boot.ini", "win.ini", "windows/system32",
    "php://filter"].map lit)

def remoteFileInclusion : Pattern :=
  .seq (oneOf [.seq (lit "http") (opt (lit "s")), lit "ftp", lit "php", lit "data", lit "expect"])
    (lit "://")

def pathTraversal : Pattern :=
  oneOf [lit "..", lit "%2e%2e"]

def phpInjection : Pattern :=
  oneOf (["<?php", "<?=", "phpinfo(", "base64_decode(", "shell_exec(", "passthru("].map lit)

/--
The patterns in the order in which they are looked for.
-/
def groups : List (AttackCategory × Pattern) :=
  [(.commandInjection, commandInjection),
    (.crossSiteScripting, crossSiteScripting),
    (.sqlInjection, sqlInjection),
    (.localFileInclusion, localFileInclusion),
    (.remoteFileInclusion, remoteFileInclusion),
    (.pathTraversal, pathTraversal),
    (.phpInjection, phpInjection)]

/--
A word without which the address of something elsewhere is no attack.
-/
def inclusionWord : List Char :=
  "include".toList

/--
A target in normal form shows an attack of the category, of which the pattern is given.
-/
def shows (s : List Char) (group : AttackCategory × Pattern) : Bool :=
  group.2.foundIn s &&
    (group.1 != .remoteFileInclusion || hasPart inclusionWord s)

/--
The category of the first group that the normal form of a target shows; a request that shows none is
a violation of policy.
-/
def categorize (target : List Char) : AttackCategory :=
  match groups.find? (shows (Target.normalize target)) with
  | some group => group.1
  | none => .securityPolicyViolation

end WafWatch.Heuristics
