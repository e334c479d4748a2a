import PtyShell.Config.Check
import PtyShell.Config.Load
import PtyShell.EnvFile.Load

namespace PtyShell.Config

def Services.standard : Services where
  addVariables := EnvFile.load
  validate value := (check value).orFault .config

def load : Option String → Sys Config :=
  loadWith .standard

end PtyShell.Config
