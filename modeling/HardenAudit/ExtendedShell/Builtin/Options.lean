import HardenAudit.ExtendedShell.Arithmetic
import HardenAudit.Shell.Options

/-!
# Builtin commands and the options before their arguments
-/

namespace HardenAudit.ExtendedShell.Builtin

open Sh

/-- How the builtin commands are called. -/
def usages : List (String × String) :=
  [(".", ". filename [arguments]"), (":", ":"), ("[", "[ arg... ]"),
   ("alias", "alias [-p] [name[=value] ... ]"), ("bg", "bg [job_spec ...]"), ("break", "break [n]"),
   ("builtin", "builtin [shell-builtin [arg ...]]"), ("caller", "caller [expr]"),
   ("cd", "cd [-L|[-P [-e]] [-@]] [dir]"), ("command", "command [-pVv] command [arg ...]"),
   ("compgen", "compgen [-abcdefgjksuv] [-o option] [-A action] [-G globpat] [-W wordlist] [-F function] [-C command] [-X filterpat] [-P prefix] [-S suffix] [word]"),
   ("complete", "complete [-abcdefgjksuv] [-pr] [-DEI] [-o option] [-A action] [-G globpat] [-W wordlist] [-F function] [-C command] [-X filterpat] [-P prefix] [-S suffix] [name ...]"),
   ("continue", "continue [n]"),
   ("declare", "declare [-aAfFgiIlnrtux] [name[=value] ...] or declare -p [-aAfFilnrtux] [name ...]"),
   ("dirs", "dirs [-clpv] [+N] [-N]"), ("disown", "disown [-h] [-ar] [jobspec ... | pid ...]"),
   ("echo", "echo [-neE] [arg ...]"), ("enable", "enable [-a] [-dnps] [-f filename] [name ...]"),
   ("eval", "eval [arg ...]"),
   ("exec", "exec [-cl] [-a name] [command [argument ...]] [redirection ...]"), ("exit", "exit [n]"),
   ("export", "export [-fn] [name[=value] ...] or export -p"), ("false", "false"),
   ("fc", "fc [-e ename] [-lnr] [first] [last] or fc -s [pat=rep] [command]"), ("fg", "fg [job_spec]"),
   ("getopts", "getopts optstring name [arg ...]"), ("hash", "hash [-lr] [-p pathname] [-dt] [name ...]"),
   ("help", "help [-dms] [pattern ...]"),
   ("history", "history [-c] [-d offset] [n] or history -anrw [filename] or history -ps arg [arg...]"),
   ("jobs", "jobs [-lnprs] [jobspec ...] or jobs -x command [args]"),
   ("kill", "kill [-s sigspec | -n signum | -sigspec] pid | jobspec ... or kill -l [sigspec]"),
   ("let", "let arg [arg ...]"), ("local", "local [option] name[=value] ..."), ("logout", "logout [n]"),
   ("mapfile", "mapfile [-d delim] [-n count] [-O origin] [-s count] [-t] [-u fd] [-C callback] [-c quantum] [array]"),
   ("popd", "popd [-n] [+N | -N]"), ("printf", "printf [-v var] format [arguments]"),
   ("pushd", "pushd [-n] [+N | -N | dir]"), ("pwd", "pwd [-LP]"),
   ("read", "read [-ers] [-a array] [-d delim] [-i text] [-n nchars] [-N nchars] [-p prompt] [-t timeout] [-u fd] [name ...]"),
   ("readarray", "readarray [-d delim] [-n count] [-O origin] [-s count] [-t] [-u fd] [-C callback] [-c quantum] [array]"),
   ("readonly", "readonly [-aAf] [name[=value] ...] or readonly -p"), ("return", "return [n]"),
   ("set", "set [-abefhkmnptuvxBCEHPT] [-o option-name] [--] [-] [arg ...]"), ("shift", "shift [n]"),
   ("shopt", "shopt [-pqsu] [-o] [optname ...]"), ("source", "source filename [arguments]"),
   ("suspend", "suspend [-f]"), ("test", "test [expr]"), ("times", "times"),
   ("trap", "trap [-lp] [[arg] signal_spec ...]"), ("true", "true"),
   ("type", "type [-afptP] name [name ...]"),
   ("typeset", "typeset [-aAfFgiIlnrtux] name[=value] ... or typeset -p [-aAfFilnrtux] [name ...]"),
   ("ulimit", "ulimit [-SHabcdefiklmnpqrstuvxPRT] [limit]"), ("umask", "umask [-p] [-S] [mode]"),
   ("unalias", "unalias [-a] name [name ...]"), ("unset", "unset [-f] [-v] [-n] [name ...]"),
   ("wait", "wait [-fn] [-p var] [id ...]")]

/-- Is the name that of a builtin command? -/
def isBuiltin (name : String) : Bool := (usages.lookup name).isSome

/-- Is the name that of a special builtin command? -/
def isSpecial (name : String) : Bool :=
  ["break", ":", ".", "continue", "eval", "exec", "exit", "export", "readonly", "return", "set", "shift",
   "source", "times", "trap", "unset"].contains name

/-- What stands before the arguments of a command. -/
structure Given where
  options : List (Char × String) := []
  rest : List String
  deriving Inhabited

namespace Given

/-- Was an option given? -/
def has (g : Given) (c : Char) : Bool := g.options.any (·.1 == c)

/-- The value of an option, the last one that was given. -/
def value? (g : Given) (c : Char) : Option String :=
  ((g.options.filter (·.1 == c)).getLast?).map (·.2)

end Given

/-- Shows how the running command is called. -/
def showUsage : Sh Unit := do
  let name := (← get).running.getD ""
  flush
  printError (name ++ ": usage: " ++ (usages.lookup name).getD name ++ "\n")

/-- The options before the arguments; each round takes an argument, so `limit` may be their number. -/
def optionsFrom (letters : List Char) (signs : List Char) : (limit : Nat) → List (Char × String) → List String →
    Except String Given
  | 0, found, args => .ok ⟨found.reverse, args⟩
  | _, found, [] => .ok ⟨found.reverse, []⟩
  | limit + 1, found, arg :: rest =>
    match arg.toList with
    | ['-', '-'] => .ok ⟨found.reverse, rest⟩
    | sign :: c :: cs =>
      if !signs.contains sign then .ok ⟨found.reverse, arg :: rest⟩
      else
        let rec go : List Char → List (Char × String) → Except String (List (Char × String) × List String)
          | [], found => .ok (found, rest)
          | c :: cs, found =>
            match Shell.takesValue? c letters with
            | none => .error (sign.toString ++ c.toString ++ ": invalid option")
            | some false => go cs ((c, if sign == '+' then "+" else "") :: found)
            | some true =>
              if !cs.isEmpty then .ok ((c, String.ofList cs) :: found, rest)
              else
                match rest with
                | value :: rest => .ok ((c, value) :: found, rest)
                | [] => .error (sign.toString ++ c.toString ++ ": option requires an argument")
        match go (c :: cs) found with
        | .error message => .error message
        | .ok (found, rest) => optionsFrom letters signs limit found rest
    | _ => .ok ⟨found.reverse, arg :: rest⟩

/-- The options before the arguments of a command, whose status is 2 if they are wrong; a colon behind a
letter asks for a value. -/
def withOptions (letters : String) (args : List String) (body : Given → Sh Nat) (signs : List Char := ['-']) :
    Sh Nat := do
  match optionsFrom letters.toList signs args.length [] args with
  | .ok g => body g
  | .error message =>
    warn message
    showUsage
    pure 2

end HardenAudit.ExtendedShell.Builtin
