import Hysteron.Keeper.Settings

/-!
The summaries of connection and recovery parameters in the log. They come from a parser for
connection strings of its own, after that of libpq.
-/

namespace Hysteron
namespace Postgres

open ClusterSpec (isSpace)

inductive ConnStringError where
  | missingEquals (key : List Char)
  | missingCharacter
  | unterminated
  deriving DecidableEq

def scanUnquoted : List Char → Except ConnStringError (List Char × List Char)
  | [] => .ok ([], [])
  | ['\\'] => .error .missingCharacter
  | '\\' :: c :: cs => (scanUnquoted cs).map fun (value, rest) => (c :: value, rest)
  | c :: cs =>
    if isSpace c then
      .ok ([], cs)
    else
      (scanUnquoted cs).map fun (value, rest) => (c :: value, rest)

def scanQuoted : List Char → Except ConnStringError (List Char × List Char)
  | [] => .error .unterminated
  | ['\\'] => .error .unterminated
  | '\\' :: c :: cs => (scanQuoted cs).map fun (value, rest) => (c :: value, rest)
  | c :: cs =>
    if c = '\'' then
      .ok ([], cs)
    else
      (scanQuoted cs).map fun (value, rest) => (c :: value, rest)

def scanValue : List Char → Except ConnStringError (List Char × List Char)
  | '\'' :: cs => scanQuoted cs
  | cs => scanUnquoted cs

def isKeyChar (c : Char) : Bool := !isSpace c && c ≠ '='

/--
The assignments of a connection string, of which a later one replaces an earlier one. Every round
takes at least one character.
-/
def scanConnString : Nat → List Char → Except ConnStringError (List (List Char × List Char))
  | 0, _ => .ok []
  | rounds + 1, cs =>
    match cs.dropWhile isSpace with
    | [] => .ok []
    | c :: cs =>
      let key := (c :: cs).takeWhile isKeyChar
      match ((c :: cs).dropWhile isKeyChar).dropWhile isSpace with
      | '=' :: rest =>
        match rest.dropWhile isSpace with
        | [] => .ok [(key, [])]
        | rest => do
          let (value, rest) ← scanValue rest
          let params ← scanConnString rounds rest
          return (key, value) :: params
      | _ => .error (.missingEquals key)

def parseConnString (name : List Char) : Except ConnStringError (List (List Char × List Char)) :=
  scanConnString (name.length + 1) name

def getConnParam (params : List (List Char × List Char)) (key : List Char) : Option (List Char) :=
  (params.reverse.find? (fun param => param.1 = key)).map Prod.snd

def allowedConnParams : List String := [
  "host", "hostaddr", "port", "user", "dbname", "database", "application_name", "sslmode",
  "connect_timeout", "replication", "fallback_application_name", "target_session_attrs"
]

structure ConnSummary where
  fields : List (String × List Char)
  passwordSet : Bool
  deriving DecidableEq

def logSummaryConnParams (params : List (List Char × List Char)) : Option ConnSummary :=
  if params = [] then
    none
  else
    some {
      fields := allowedConnParams.filterMap fun key =>
        match getConnParam params key.toList with
        | some value => if value ≠ [] then some (key, value) else none
        | none => none
      passwordSet := (getConnParam params "password".toList).isSome
    }

inductive RecoverySummary where
  | redacted
  | parseError (err : ConnStringError)
  | connParams (summary : Option ConnSummary)
  | value (text : String)
  deriving DecidableEq

def summarizeRecoveryParameter (key value : String) : Option RecoverySummary :=
  let lk := ClusterSpec.toLower key
  if "password".toList <:+: lk.toList ∨ lk = "passfile" then
    if value ≠ "" then some .redacted else none
  else if key = "primary_conninfo" then
    if value = "" then
      none
    else
      match parseConnString value.toList with
      | .error err => some (.parseError err)
      | .ok params => some (.connParams (logSummaryConnParams params))
  else
    some (.value value)

def addRecoverySummary (parameters : PGParameters) (out : FinMap String RecoverySummary)
    (key : String) : FinMap String RecoverySummary :=
  match parameters[key]?.bind (summarizeRecoveryParameter key) with
  | some summary => out.insert key summary
  | none => out

def logSummaryRecoveryParameters (order : VisitOrder String) (parameters : PGParameters)
    : FinMap String RecoverySummary :=
  (order.visit parameters.keys).foldl (addRecoverySummary parameters) ∅

end Postgres
end Hysteron
