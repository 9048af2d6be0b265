import Hysteron.Keeper.Settings
import Hysteron.Util.ConfFile
import Hysteron.Util.LibPQ

/-!
The files that the keeper writes for PostgreSQL and its tools: the configuration file and the
password file of a resync.
-/

namespace Hysteron
namespace Postgres

/--
The lines for parameters in the order in which a loop visits them. `text` is what stands between the
quotes of a value.
-/
def parameterLines (order : VisitOrder String) (text : List Char → List Char)
    (parameters : PGParameters) : List Char :=
  (order.visit parameters.keys).flatMap (fun key =>
    ConfFile.setting key.toList (text (parameters[key]?.getD "").toList) ++ ['\n'])

/--
The contents of `postgresql.conf`. The quotes of a recovery parameter are not doubled.
-/
def writeConf (order recoveryOrder : VisitOrder String) (parameters : PGParameters)
    (recoveryOptions : Keeper.RecoveryOptions) : List Char :=
  parameterLines order ConfFile.doubleQuotes parameters
    ++ (if recoveryOptions.recoveryMode = .none then [] else
      parameterLines recoveryOrder id recoveryOptions.recoveryParameters)

def getParam (params : List (String × String)) (key : String) : List Char :=
  ((params.lookup key).getD "").toList

def syncFromFollowedPGRewindPgpass (followedConnParams : List (String × String)) (password : String)
    : List Char :=
  let host := getParam followedConnParams "host"
  let port := getParam followedConnParams "port"
  let user := getParam followedConnParams "user"
  host ++ ":".toList ++ port ++ ":*:".toList ++ user ++ ":".toList ++ password.toList ++ ['\n']

def syncFromFollowedPgpass (followedConnParams : List (String × String)) : List Char :=
  let host := getParam followedConnParams "host"
  let port := getParam followedConnParams "port"
  let user := getParam followedConnParams "user"
  let password := getParam followedConnParams "password"
  host ++ ":".toList ++ port ++ ":*:".toList ++ user ++ ":".toList ++ password ++ ['\n']

end Postgres
end Hysteron
