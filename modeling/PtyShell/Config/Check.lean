import PtyShell.Config.Basic

namespace PtyShell

def TerminalSettings.check : Json → Checked TerminalSettings :=
  Checked.object fun members =>
    TerminalSettings.mk <$> Checked.field members "rows" default.rows Checked.integer
      <*> Checked.field members "cols" default.cols Checked.integer
      <*> Checked.field members "term_type" default.termType Checked.text

def Config.check : Json → Checked Config :=
  Checked.object fun members =>
    Config.mk <$> Checked.field members "term" default.term TerminalSettings.check
      <*> Checked.field members "shell" default.shell Checked.optionalText
      <*> Checked.field members "lang" default.lang Checked.text

end PtyShell
