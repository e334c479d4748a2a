import PtyShell.Fault

namespace PtyShell

inductive Report
  | fault (fault : Fault)
  | value (value : Json)
  deriving DecidableEq, Repr

namespace Fault

def exitStatus? : Fault → Option Int
  | .exited returncode => if returncode < 0 then none else some returncode
  | _ => none

def signal? : Fault → Option Int
  | .exited returncode => if returncode < 0 then some (-returncode) else none
  | _ => none

def exitCode (fault : Fault) : Int :=
  match fault with
  | .commandFailed status _ => (CommandStatus.exitCode? status).getD (-1)
  | _ => fault.exitStatus?.getD (-1)

end Fault

def exitFault? (returncode : Int) : Option Fault :=
  if returncode = 0 then none else some (.exited returncode)

structure Termination where
  error : Option Report
  deriving DecidableEq, Repr

namespace Termination

def exitCode (result : Termination) : Int :=
  match result.error with
  | none => 0
  | some (.fault fault) => fault.exitCode
  | some (.value _) => -1

def success (result : Termination) : Bool :=
  result.error.isNone

end Termination

end PtyShell
