import DnsBlocklist.CommandLine.Reader
import DnsBlocklist.Config.File
import DnsBlocklist.Server.Prepare

/-! The program from its command line to a server that is ready. -/

namespace DnsBlocklist
set_option autoImplicit false

/-- Why the program ends without serving. -/
inductive StartFailure where
  | commandLine (why : Stop)
  | configFile (path : Path) (why : Failure)
  | server (why : Failure)
deriving DecidableEq

namespace Program

def name : Text := "rbldnsd".toList

def versionLine : Text := name ++ " 0.4.0".toList

end Program

namespace StartFailure

def exitCode : StartFailure → Nat
  | commandLine why => why.exitCode
  | configFile _ _ | server _ => 1

/-- The line that tells about a failure; help, the version and misuse have texts of their own. -/
def line? : StartFailure → Option Text
  | commandLine _ => none
  | configFile path why =>
    some (Program.name ++ ": loading config ".toList ++ path ++ ": ".toList ++ why.message)
  | server why => some (Program.name ++ ": ".toList ++ why.message)

end StartFailure

namespace Program

variable {m : Type → Type} [Monad m] {H S : Type}

/-- The settings of a file where one is named, and those by default otherwise. -/
def baseConfig (files : DataFiles m) : Option Path → m (Except Failure Config)
  | none => pure (.ok .initial)
  | some path => Config.load files path

/-- The command line and the settings that come of it. -/
def configure (files : DataFiles m) (words : List Text) (environment : Option Text) :
    m (Except StartFailure (CommandLine × Config)) :=
  match CommandLine.read words environment with
  | .error why => pure (.error (.commandLine why))
  | .ok line => do
    match ← baseConfig files line.config with
    | .error why => return .error (.configFile (line.config.getD []) why)
    | .ok c => return .ok (line, line.apply c)

/-- A server that is ready for what the command line asks for. -/
def start (host : Host m H S) (words : List Text) (environment : Option Text) :
    m (Except StartFailure (Config × Prepared H S)) := do
  match ← configure host.storage.data words environment with
  | .error why => return .error why
  | .ok (_, c) =>
    match ← Server.prepare host c .start with
    | .error why => return .error (.server why)
    | .ok prepared => return .ok (c, prepared)

end Program

end DnsBlocklist
