import Hysteron.Cluster.Types

/-!
Texts that the manager of the instance builds for others to read: commands for the shell and SQL for
the server.
-/

namespace Hysteron
namespace Postgres

/-! ## Restore commands -/

def slice (s : List Char) (i j : Nat) : List Char := (s.take j).drop i

/--
The loop of `expand` at position `j`. What is before position `i` has been copied to the buffer.
-/
def expandFrom (s dataDir walDir buf : List Char) (i j : Nat) : List Char :=
  if j < s.length then
    if s[j]? = some '%' then
      match s[j + 1]? with
      | some 'd' => expandFrom s dataDir walDir (buf ++ slice s i j ++ dataDir) (j + 2) (j + 2)
      | some 'w' => expandFrom s dataDir walDir (buf ++ slice s i j ++ walDir) (j + 2) (j + 2)
      -- The first of the two characters is copied.
      | some '%' => expandFrom s dataDir walDir (buf ++ slice s i (j + 1)) (j + 2) (j + 2)
      | _ => expandFrom s dataDir walDir buf i (j + 1)
    else
      expandFrom s dataDir walDir buf i (j + 1)
  else
    buf ++ s.drop i
termination_by s.length - j

def expand (s dataDir walDir : String) : String :=
  String.ofList (expandFrom s.toList dataDir.toList walDir.toList [] 0 0)

/-! ## SQL -/

def doubled (c : Char) (text : List Char) : List Char :=
  text.flatMap (fun d => if d = c then [c, c] else [d])

def quoteIdentifier (identifier : String) : String :=
  String.ofList ('"' :: doubled '"' identifier.toList ++ ['"'])

def quoteLiteral (literal : String) : String :=
  let literal := doubled '\'' literal.toList
  if '\\' ∈ literal then
    String.ofList (' ' :: 'E' :: '\'' :: doubled '\\' literal ++ ['\''])
  else
    String.ofList ('\'' :: literal ++ ['\''])

def roleQuery (keywords options username password : String) : String :=
  keywords ++ quoteIdentifier username ++ options ++ quoteLiteral password

def setPasswordQuery (username password : String) : String :=
  roleQuery "alter role " " with encrypted password " username password

def createRoleQuery (username password : String) : String :=
  roleQuery "create role " " with login replication encrypted password " username password

def alterRoleQuery (username password : String) : String :=
  roleQuery "alter role " " with login replication encrypted password " username password

end Postgres
end Hysteron
