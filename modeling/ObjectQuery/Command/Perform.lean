import ObjectQuery.Command.Info
import ObjectQuery.Command.RunQuery
import ObjectQuery.Command.Validate
/-!
# Performing commands

A command is performed on any host, and its outcome tells what was printed and whether it failed.
-/

namespace ObjectQuery

namespace Outcome

/-- A command that either prints text or fails without a word. -/
def ofExcept : Except CommandError String → Outcome
  | .ok output => ⟨output, none⟩
  | .error error => ⟨"", some error⟩

end Outcome

namespace Command

variable {m : Type → Type} [Monad m] [Host m]

def perform : Command → m Outcome
  | .run options => return .ofExcept (← options.perform)
  | .validate options => options.perform
  | .info options => return options.perform (DetectorRegistry.builtin (m := m)).names

end Command

end ObjectQuery
