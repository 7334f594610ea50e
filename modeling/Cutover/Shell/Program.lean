import Cutover.Shell.Program.Characters
import Cutover.Shell.Program.Columns
import Cutover.Shell.Program.Condition
import Cutover.Shell.Program.Counting
import Cutover.Shell.Program.Dumping
import Cutover.Shell.Program.Editing
import Cutover.Shell.Program.Ends
import Cutover.Shell.Program.Identity
import Cutover.Shell.Program.Lines
import Cutover.Shell.Program.Linking
import Cutover.Shell.Program.Listing
import Cutover.Shell.Program.Marking
import Cutover.Shell.Program.Naming
import Cutover.Shell.Program.Ordering
import Cutover.Shell.Program.Plain
import Cutover.Shell.Program.Searching
import Cutover.Shell.Program.Sequence
import Cutover.Shell.Program.Showing
import Cutover.Shell.Program.Sleep
import Cutover.Shell.Program.Starting
import Cutover.Shell.Program.Terms
import Cutover.Shell.Program.Transfer

/-!
# Programs

The programs that scripts can call besides the shell itself.
-/
namespace Cutover.Shell

/-- The programs that start no others. -/
def programs : List (String × Program) :=
  [("true", fun _ _ _ => Act.finish 0), ("false", fun _ _ _ => Act.finish 1), ("sleep", sleep),
    ("printenv", printSettings), ("echo", echoArguments), ("printf", formatArguments),
    ("test", Condition.run), ("[", Condition.runBracketed), ("pwd", printFolder), ("cat", cat),
    ("tee", tee), ("mkdir", makeFolders), ("rmdir", removeFolders), ("mkfifo", makeQueues),
    ("chmod", changeModes), ("touch", touch), ("rm", remove), ("cp", transferAll false),
    ("mv", transferAll true), ("ln", link), ("link", linkOnce), ("unlink", unlinkOnce),
    ("readlink", readLink), ("realpath", realPath), ("ls", list), ("stat", describeFiles),
    ("head", showEnd false), ("tail", showEnd true), ("wc", count), ("sort", sort),
    ("uniq", dropEqual), ("comm", compareSorted), ("tr", changeChars), ("cut", cut),
    ("paste", paste), ("nl", numberLines), ("tac", reverseOrder), ("rev", reverseLines),
    ("fold", fold), ("expand", expandTabs), ("seq", sequence), ("yes", repeatLine),
    ("basename", printBaseNames), ("dirname", printFolderNames), ("expr", evaluate),
    ("grep", search 'G'), ("egrep", search 'E'), ("fgrep", search 'F'),
    ("sed", edit), ("od", dump)] ++ identityPrograms

def programNames : List String :=
  "sh" :: "dash" :: starters.map (·.1) ++ programs.map (·.1)

end Cutover.Shell
