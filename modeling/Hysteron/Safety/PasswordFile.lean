import Hysteron.Postgres.ConfFiles

/-!
What libpq reads from the password files of a resync. No field of their line is escaped.
-/

namespace Hysteron
namespace Postgres

section PasswordFile

def PasswordReadable (host port user password file : List Char) : Prop :=
  ∀ (dbname : List Char), LibPQ.passwordFromFile host port dbname user file = some password

def IsPlainField (field : List Char) : Prop := '\\' ∉ field ∧ LibPQ.IsToken field

/--
The line is no comment, its fields stand for themselves, and so does the password up to the end of
the line: a backslash is harmless as the last character only, and a carriage return is not.
-/
structure PasswordFileSafe (host port user password : List Char) : Prop where
  comment : host.head? ≠ some '#'
  host : IsPlainField host
  port : IsPlainField port
  user : IsPlainField user
  colon : ':' ∉ password
  escape : '\\' ∉ password.dropLast
  carriageReturn : password.getLast? ≠ some '\r'

variable {host port user password : List Char}

theorem passwordReadable_and_isToken_iff
    (hhost : '\n' ∉ host) (hport : '\n' ∉ port) (huser : '\n' ∉ user) (hpassword : '\n' ∉ password)
    : (PasswordReadable host port user password
          (LibPQ.passwordLine host port user password ++ ['\n'])
        ∧
      LibPQ.IsToken host ∧ LibPQ.IsToken port ∧ LibPQ.IsToken user)
        ↔
      PasswordFileSafe host port user password := by
  have hline : '\n' ∉ LibPQ.passwordLine host port user password := by
    simp [LibPQ.passwordLine, hhost, hport, huser, hpassword]
  simp only [PasswordReadable, LibPQ.passwordFromFile_line hline]
  constructor
  . rintro ⟨hread, htoken, htoken', htoken''⟩
    obtain ⟨hcomment, ⟨hhost, hport, huser⟩, hcolon, hescape, hlast⟩ :=
      (LibPQ.passwordFromLine_eq_some_iff htoken htoken' htoken'' []).mp (hread [])
    exact ⟨hcomment, ⟨hhost, htoken⟩, ⟨hport, htoken'⟩, ⟨huser, htoken''⟩, hcolon, hescape, hlast⟩
  . rintro ⟨hcomment, ⟨hhost, htoken⟩, ⟨hport, htoken'⟩, ⟨huser, htoken''⟩, hcolon, hescape, hlast⟩
    refine ⟨fun dbname => ?_, htoken, htoken', htoken''⟩
    exact (LibPQ.passwordFromLine_eq_some_iff htoken htoken' htoken'' dbname).mpr
      ⟨hcomment, ⟨hhost, hport, huser⟩, hcolon, hescape, hlast⟩

/--
Both password files are read back exactly if their fields need no escapes. A field that starts with
`*:` is left out: it matches everything, and what follows its colon is taken for the next field.
-/
theorem passwordFiles_readable_iff (params : List (String × String)) (suPassword : String)
    (hfields : ∀ key ∈ ["host", "port", "user", "password"], '\n' ∉ getParam params key)
    (hpassword : '\n' ∉ suPassword.toList)
    : ((PasswordReadable (getParam params "host") (getParam params "port") (getParam params "user")
            suPassword.toList (syncFromFollowedPGRewindPgpass params suPassword)
          ∧
        ∀ key ∈ ["host", "port", "user"], LibPQ.IsToken (getParam params key))
          ↔
        PasswordFileSafe (getParam params "host") (getParam params "port") (getParam params "user")
          suPassword.toList)
        ∧
      ((PasswordReadable (getParam params "host") (getParam params "port") (getParam params "user")
            (getParam params "password") (syncFromFollowedPgpass params)
          ∧
        ∀ key ∈ ["host", "port", "user"], LibPQ.IsToken (getParam params key))
          ↔
        PasswordFileSafe (getParam params "host") (getParam params "port") (getParam params "user")
          (getParam params "password")) := by
  have hcolon : ":".toList = [':'] := rfl
  have hstar : ":*:".toList = [':', '*', ':'] := rfl
  have hline (host port user password : List Char)
      : host ++ ":".toList ++ port ++ ":*:".toList ++ user ++ ":".toList ++ password ++ ['\n']
        = LibPQ.passwordLine host port user password ++ ['\n'] := by
    simp [LibPQ.passwordLine, hcolon, hstar]
  simp only [List.forall_mem_cons, List.not_mem_nil, false_imp_iff, implies_true, and_true]
    at hfields ⊢
  obtain ⟨hhost, hport, huser, hreplication⟩ := hfields
  rw [syncFromFollowedPGRewindPgpass, syncFromFollowedPgpass, hline, hline]
  exact ⟨passwordReadable_and_isToken_iff hhost hport huser hpassword,
    passwordReadable_and_isToken_iff hhost hport huser hreplication⟩

def followedParams (password : String) : List (String × String) :=
  [("user", "repl"), ("host", "fd00::1"), ("port", "5432"), ("password", password)]

theorem passwordFiles_readable_iff_sample
    : (∀ key ∈ ["host", "port", "user", "password"],
        '\n' ∉ getParam (followedParams "it's *me*") key)
        ∧
      PasswordReadable "fd00::1".toList "5432".toList "repl".toList "it's *me*".toList
        (syncFromFollowedPgpass (followedParams "it's *me*")) := by
  have hfields : ∀ key ∈ ["host", "port", "user", "password"],
      '\n' ∉ getParam (followedParams "it's *me*") key := by
    decide +kernel
  have hsafe : PasswordFileSafe "fd00::1".toList "5432".toList "repl".toList "it's *me*".toList := by
    have htoken {field : List Char} (h : field.head? ≠ some '*') : LibPQ.IsToken field := by
      rintro ⟨rest, rfl⟩
      exact h rfl
    exact ⟨by decide +kernel, ⟨by decide +kernel, htoken (by decide +kernel)⟩,
      ⟨by decide +kernel, htoken (by decide +kernel)⟩,
      ⟨by decide +kernel, htoken (by decide +kernel)⟩,
      by decide +kernel, by decide +kernel, by decide +kernel⟩
  exact ⟨hfields, ((passwordFiles_readable_iff (followedParams "it's *me*") "" hfields
    (by decide +kernel)).2.mpr hsafe).1⟩

/--
A password with a colon is cut there, and one with a backslash loses it.
-/
theorem password_with_colon_cut
    : (¬PasswordReadable "fd00::1".toList "5432".toList "repl".toList "a:b".toList
        (syncFromFollowedPgpass (followedParams "a:b")))
        ∧
      LibPQ.passwordFromFile "fd00::1".toList "5432".toList "replication".toList "repl".toList
        (syncFromFollowedPgpass (followedParams "a:b")) = some ['a']
        ∧
      LibPQ.passwordFromFile "fd00::1".toList "5432".toList "postgres".toList "repl".toList
        (syncFromFollowedPGRewindPgpass (followedParams "") "a\\b") = some ['a', 'b'] := by
  have hread : LibPQ.passwordFromFile "fd00::1".toList "5432".toList "replication".toList
      "repl".toList (syncFromFollowedPgpass (followedParams "a:b")) = some ['a'] := by
    decide +kernel
  refine ⟨fun h => ?_, hread, by decide +kernel⟩
  have hcut := (h "replication".toList).symm.trans hread
  exact absurd hcut (by decide +kernel)

end PasswordFile

end Postgres
end Hysteron
