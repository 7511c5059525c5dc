import StackScript.Mode

/-!
# Options of the command line

The commands that run programs take options anywhere among their arguments: `--hardened`, and
`--max-depth=` with a number. Any other argument that starts with two dashes is refused; everything
else is positional, so a negative number is too.
-/

namespace StackScript.CommandLine

/-- A count in an option: digits, optionally after a plus sign, for a number of 64 bits. -/
def readCount? (text : List Char) : Option Nat :=
  let digits := match text with
    | '+' :: rest => rest
    | _ => text
  if Number.isDigits digits then
    let n := Nat.ofDigitChars 10 digits 0
    if n < UInt64.size then some n else none
  else none

/-- What is left of a text after it is stripped of what it starts with. -/
def strip? : (start text : List Char) → Option (List Char)
  | [], text => some text
  | _ :: _, [] => none
  | c :: start, d :: text => if c = d then strip? start text else none

/-- Takes options and positional arguments apart; of an option given twice the last one counts. The
error is the wording of what is wrong with the first bad option. -/
def readOptions (policy : Policy) (positional : List String) :
    List String → Except String (Policy × List String)
  | [] => .ok (policy, positional.reverse)
  | arg :: rest =>
    if arg = "--hardened" then readOptions { policy with mode := .hardened } positional rest
    else
      match strip? "--max-depth=".toList arg.toList with
      | some depth =>
        match readCount? depth with
        | some n => readOptions { policy with maxDepth := n } positional rest
        | none => .error ("invalid --max-depth value '" ++ String.ofList depth ++ "'")
      | none =>
        if (strip? ['-', '-'] arg.toList).isSome then .error ("unknown option '" ++ arg ++ "'")
        else readOptions policy (arg :: positional) rest

/-- The policy that arguments ask for, and the arguments that are not options. -/
def options (args : List String) : Except String (Policy × List String) :=
  readOptions .standard [] args

end StackScript.CommandLine
