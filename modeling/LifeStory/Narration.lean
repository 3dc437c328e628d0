import LifeStory.Life.Log
import LifeStory.Text.Style

/-!
# Lines of the log in text

A line of the log is shown with its turn and its title; on a terminal its style tells its kind.
-/

namespace LifeStory

/-- The style of lines of a kind. -/
def LogKind.style : LogKind → Text.Style
  | event => .boldBrightWhite
  | choice => .cyan
  | feedback => .plain
  | system => .dimmed
  | ending => .boldBrightRed

namespace LogEntry

/-- A line of the log as one text. -/
def line (entry : LogEntry) : String :=
  let title := entry.title.elim "" (· ++ ": ")
  "[turn " ++ toString entry.turn ++ "] " ++ title ++ entry.text

/-- A line of the log in the style of its kind. -/
def styledLine (colours : Bool) (entry : LogEntry) : String :=
  entry.kind.style.paint colours entry.line

end LogEntry

end LifeStory
