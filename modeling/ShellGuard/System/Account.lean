import ShellGuard.System.Path

/-!
# Accounts — the home of a user in the tables of the system

## Main definitions

* `Account.userId?` — the number of the user, in the status of a process.
* `Account.home?` — the home of a user, in the table of accounts.
-/

namespace ShellGuard.Account

def lines (t : Text) : List Text :=
  t.splitOn '\n'

/-- The number of the user, in the status of a process: the first number of its line. -/
def userId? (status : Text) : Option Text :=
  (lines status).findSome? fun line =>
    (Text.dropLead? "Uid:" line).map fun numbers =>
      (numbers.dropWhile (· = '\t')).takeWhile Char.isDigit

/-- The home of the user with a number, in the table of accounts: the sixth field of a line. -/
def home? (accounts : Text) (userId : Text) : Option Path :=
  (lines accounts).findSome? fun line =>
    match line.splitOn ':' with
    | [_, _, user, _, _, home, _] => if user = userId then some home else none
    | _ => none

end ShellGuard.Account
