import PtyShell.Fault
import PtyShell.Validation.Checked

namespace PtyShell

structure TerminalSize where
  rows : Int
  cols : Int
  deriving DecidableEq, Repr

namespace TerminalSize

def greatest : Int := 65535

def check : Json → Checked TerminalSize :=
  Checked.object fun members =>
    TerminalSize.mk <$> Checked.field members "rows" 0 Checked.integer
      <*> Checked.field members "cols" 0 Checked.integer

def fields (size : TerminalSize) : List (String × Json) :=
  [("rows", .int size.rows), ("cols", .int size.cols)]

def needsDefaults (size : TerminalSize) : Bool :=
  size.rows == 0 || size.cols == 0

def clamp (size : TerminalSize) : TerminalSize :=
  ⟨min size.rows greatest, min size.cols greatest⟩

/-- What a size is refused with. The refusal holds the size in words, for which a dimension can have
too many digits. -/
def refusal (size : TerminalSize) : Fault :=
  if Text.isWritable size.rows && Text.isWritable size.cols then .invalidSize size.rows size.cols
  else .unwritable

def settle (size : TerminalSize) : Except Fault TerminalSize :=
  if size.rows ≤ 0 ∨ size.cols ≤ 0 then .error size.refusal else .ok size.clamp

def resolve (size defaults : TerminalSize) : Except Fault TerminalSize :=
  settle (if size.needsDefaults then defaults else size)

end TerminalSize

def Checked.orFault {α : Type} (model : ModelName) : Checked α → Except Fault α
  | .valid value => .ok value
  | .faulty problems => .error (.badModel model problems)

def TerminalSize.resolveAgainst (size : TerminalSize) (defaults : Json) :
    Except Fault TerminalSize :=
  if size.needsDefaults then do
    let defaults ← (TerminalSize.check defaults).orFault .terminalSize
    defaults.settle
  else size.settle

end PtyShell
