import Cutover.Cli.Run
import Cutover.Command.Execution

/-!
# Command lines on a file tree

The services of command lines that are carried out on a file tree alone: commands are executed on
it, there are no databases, and nobody interrupts a run.
-/
namespace Cutover

def Cli.Services.onFiles : Cli.Services Unit where
  execute c cwd timeoutSecs s :=
    let (outcome, files) := c.execute s.1 cwd timeoutSecs
    (outcome, files, ())
  stateDatabase url _ := .error (.database s!"no connection to {url}")
  comparison source _ := .error (.database s!"no connection to {source}")
  interrupts _ s := (false, s)

end Cutover
