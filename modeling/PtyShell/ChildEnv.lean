import PtyShell.Config.Basic

namespace PtyShell.ChildEnv

def shellVariables (termType : String) : Env :=
  (Env.empty.set "TERM" termType).set "COLORTERM" "truecolor"

def language (base : Env) (config : Config) : String :=
  if base.getD "LANG" = "" then config.lang else base.getD "LANG"

def baseline (base : Env) (config : Config) : Env :=
  (shellVariables config.term.termType).set "LANG" (language base config)

def build (base : Env) (config : Config) (overrides : Env) : Env :=
  (base.merge (baseline base config) false).merge overrides true

end PtyShell.ChildEnv
