import StackScript.CommandLine.Options
import StackScript.Excerpt
import StackScript.Session

/-!
# The command line

The command line runs programs from files or from its arguments, takes them line by line, and shows
how a program is read. Everything it does is decided here, as a function from what it is given to
what it answers; reading files and lines and writing the answer is left to the outermost layer.

An invocation is first turned into a `Command`, or refused. A command that works on a file names it,
and is then answered with the content of the file or with the reason why it cannot be read.
-/

namespace StackScript.CommandLine

/-- What a command answers: the exit code and what it writes on either channel. -/
structure Reply where
  /-- the exit code -/
  exit : Nat
  /-- what is written as output -/
  out : String
  /-- what is written as diagnostics -/
  err : String
  deriving DecidableEq, Repr

/-- Something that can be asked for on the command line. -/
inductive Command where
  /-- run the program in a file -/
  | run (path : String) (policy : Policy)
  /-- run a program that is given directly -/
  | eval (source : String) (policy : Policy)
  /-- read and run programs line by line -/
  | interactive (policy : Policy)
  /-- list the tokens of the program in a file -/
  | tokens (path : String)
  /-- show how the program in a file is read -/
  | tree (path : String)
  /-- explain the command line -/
  | help
  /-- tell the version -/
  | version
  deriving DecidableEq, Repr

/-- Why an invocation is refused. -/
inductive Refusal where
  /-- a command lacks its argument; the text says how it is used -/
  | usage (text : String)
  /-- an option is wrong; the text says how -/
  | badOption (text : String)
  /-- there is no such command -/
  | unknownCommand (name : String)
  deriving DecidableEq, Repr

/-- Why a file cannot be read. -/
inductive ReadFailure where
  /-- there is no such file -/
  | notFound
  /-- the file may not be read -/
  | permissionDenied
  /-- the file is not UTF-8 text -/
  | notText
  /-- any other reason, in the words of the system -/
  | other (reason : String)
  deriving DecidableEq, Repr

/-! ## Texts -/

/-- The explanation of the command line, line by line. -/
def helpLines : List String :=
  ["SPS, a small PostScript-like stack language",
    "",
    "Usage: sps [command] [options]",
    "",
    "Commands:",
    "  run <file>          Run a program file",
    "  eval <program>      Run a program given on the command line",
    "  repl                Interactive session (default with no command)",
    "  lex <file>          Tokenize and display lexemes",
    "  parse <file>        Parse and display the program tree",
    "  help                Show this help message",
    "  version             Show version information",
    "",
    "Run options:",
    "  --hardened          Push falsy bindings and recover from `end` underflow",
    "                      and zero `for` steps instead of aborting",
    "  --max-depth=<n>     Maximum procedure nesting (default: 10000)",
    "",
    "Environment:",
    "  RUST_LOG            Enable logging, e.g. RUST_LOG=sps_eval=debug",
    "  SPS_LOG_TREE        Render nested procedure calls as an indented tree"]

/-- The explanation of the command line. -/
def helpText : String :=
  String.join (helpLines.map (· ++ "\n"))

/-- The version. -/
def versionText : String :=
  "sps 0.1.0\n"

/-- What an interactive session writes before it reads a line. -/
def prompt : String :=
  "sps> "

/-- The wording of a failure to read the file at a path. -/
def ReadFailure.message (path : String) : ReadFailure → String
  | .notFound => "cannot find file '" ++ path ++ "'"
  | .permissionDenied => "permission denied reading '" ++ path ++ "'"
  | .notText => "'" ++ path ++ "' contains invalid UTF-8 data"
  | .other reason => "error reading '" ++ path ++ "': " ++ reason

/-- The answer to an invocation that is refused. -/
def Refusal.reply : Refusal → Reply
  | .usage text => ⟨1, "", "Usage: " ++ text ++ "\n"⟩
  | .badOption text => ⟨1, "", "error: " ++ text ++ "\n"⟩
  | .unknownCommand name => ⟨1, helpText, "Unknown command: " ++ name ++ "\n\n"⟩

/-! ## Invocations -/

/-- The parts of a path between its slashes, without those that stand for the directory they are
in. -/
def pathParts (path : String) : List String :=
  (path.splitOn "/").filter fun part => part != "" && part != "."

/-- The extension of a file name: what follows its last point, if something stands before it. -/
def extension? (name : List Char) : Option (List Char) :=
  let ending := (name.reverse.takeWhile (· ≠ '.')).reverse
  let before := name.length - ending.length - 1
  if name.length ≤ ending.length ∨ before = 0 ∨ name = ['.', '.'] then none else some ending

/-- Whether a path is that of a program: its extension is `ps` or `sps`, in small or capital
letters. -/
def isProgramPath (path : String) : Bool :=
  match (pathParts path).getLast? with
  | none => false
  | some name =>
    match extension? name.toList with
    | some ending =>
      let small := ending.map Char.toLower
      small == ['p', 's'] || small == ['s', 'p', 's']
    | none => false

/-- Reads the options of a command and passes on the policy and the positional arguments. -/
def withOptions (args : List String) (next : Policy → List String → Except Refusal Command) :
    Except Refusal Command :=
  match options args with
  | .ok (policy, positional) => next policy positional
  | .error text => .error (.badOption text)

/-- The command that an invocation asks for. Without arguments that is an interactive session; the
path of a program alone asks to run it. -/
def Command.ofArgs : List String → Except Refusal Command
  | [] => .ok (.interactive .standard)
  | command :: args =>
    if command = "run" then
      withOptions args fun policy positional =>
        match positional with
        | path :: _ => .ok (.run path policy)
        | [] => .error (.usage "sps run <file> [--hardened] [--max-depth=<n>]")
    else if command = "eval" then
      withOptions args fun policy positional =>
        match positional with
        | [] => .error (.usage "sps eval <program> [--hardened] [--max-depth=<n>]")
        | _ => .ok (.eval (" ".intercalate positional) policy)
    else if command = "repl" then withOptions args fun policy _ => .ok (.interactive policy)
    else if command = "lex" then
      match args with
      | path :: _ => .ok (.tokens path)
      | [] => .error (.usage "sps lex <file>")
    else if command = "parse" then
      match args with
      | path :: _ => .ok (.tree path)
      | [] => .error (.usage "sps parse <file>")
    else if command ∈ ["help", "--help", "-h"] then .ok .help
    else if command ∈ ["version", "--version", "-v"] then .ok .version
    else if isProgramPath command then withOptions args fun policy _ => .ok (.run command policy)
    else .error (.unknownCommand command)

/-- The file that a command works on. -/
def Command.path? : Command → Option String
  | .run path _ | .tokens path | .tree path => some path
  | _ => none

/-! ## Running programs -/

/-- Runs a program and reports on it. The output is what the program printed; the diagnostics are
the faults that were recorded on the way and then the failure, if there is one. The exit code tells
whether there is one. -/
def report (s : Session) (name source : String) : Reply × Session :=
  let (failure, s) := s.run source
  let (faults, s) := s.takeFaults
  let (out, s) := s.flush
  let recorded := String.join (faults.toList.map fun f => "error: " ++ f.message ++ "\n")
  match failure with
  | none => (⟨0, out, recorded⟩, s)
  | some (.parse e) => (⟨1, out, recorded ++ Excerpt.render name source e⟩, s)
  | some failure => (⟨1, out, recorded ++ "error: " ++ failure.message ++ "\n"⟩, s)

/-- The session in which the command line runs a program. -/
def session (policy : Policy) : Session :=
  .fresh policy (.console "")

/-! ## Showing programs -/

/-- One token in a listing. -/
def tokenLine (t : Token) : String :=
  "  " ++ t.kind.label ++ " `" ++ t.text ++ "` @ " ++ String.ofList t.span.chars ++ "\n"

/-- Lists the tokens of a program. -/
def listTokens (path source : String) : Reply :=
  match Token.scan source with
  | .ok tokens =>
    let count := Fault.natText tokens.length
    ⟨0, "Lexemes for '" ++ path ++ "' (" ++ count ++ " lexemes):\n" ++
      String.join (tokens.map tokenLine), ""⟩
  | .error e => ⟨1, "", Excerpt.render path source e⟩

mutual

/-- A term in a listing, with what is inside it one step further to the right. -/
def termLines (indent : Nat) : Term → String
  | .proc body =>
    String.ofList (List.replicate indent ' ') ++ "procedure (" ++ Fault.natText body.length ++
      " items)\n" ++ termsLines (indent + 2) body
  | term =>
    String.ofList (List.replicate indent ' ' ++ term.kind.label.toList ++ ' ' :: term.chars) ++ "\n"

/-- Several terms in a listing. -/
def termsLines (indent : Nat) : List Term → String
  | [] => ""
  | term :: rest => termLines indent term ++ termsLines indent rest

end

/-- Shows how a program is read. -/
def showTree (path source : String) : Reply :=
  match Program.parse source with
  | .ok program =>
    ⟨0, "Parse result for '" ++ path ++ "':\n  Items: " ++ Fault.natText program.items.length ++
      "\n\n" ++ termsLines 2 program.items ++ "\nNormalized:\n  " ++ program.text ++ "\n", ""⟩
  | .error e => ⟨1, "", Excerpt.render path source e⟩

/-! ## Interactive sessions -/

/-- One line of an interactive session. A line that says `quit` ends the session; an empty line does
nothing; any other line is run as a program, and however that ends, the session goes on. The answer
leaves out the prompt. -/
def interact (s : Session) (line : String) : Option (Reply × Session) :=
  let trimmed := String.ofList (Text.trim line.toList)
  if trimmed = "quit" then none
  else if trimmed = "" then some (⟨0, "", ""⟩, s)
  else some (report s "<repl>" trimmed)

/-- The lines of an input, without what ends them: a line feed, and a return before it. A line that
is not UTF-8 text is marked as such. What follows the last line feed is a line unless it is
empty. -/
def inputLines (input : ByteArray) : List (Option String) :=
  let (done, current) := input.toList.foldl
    (fun (done, current) byte =>
      if byte = 10 then ((current, true) :: done, []) else (done, byte :: current))
    (([] : List (List UInt8 × Bool)), ([] : List UInt8))
  let all := if current.isEmpty then done else (current, false) :: done
  all.reverse.map fun (backwards, ended) =>
    let bytes := match backwards, ended with
      | 13 :: line, true => line.reverse
      | line, _ => line.reverse
    String.fromUTF8? bytes.toByteArray

/-- A whole interactive session. A line that is not text ends it, as the end of the lines does. -/
def transcript (s : Session) : List (Option String) → Reply
  | [] | none :: _ => ⟨0, prompt ++ "\n", ""⟩
  | some line :: rest =>
    match interact s line with
    | none => ⟨0, prompt, ""⟩
    | some (reply, s) =>
      let more := transcript s rest
      ⟨0, prompt ++ reply.out ++ more.out, reply.err ++ more.err⟩

/-! ## Commands -/

/-- Answers a command. The content of the file that the command works on, or the reason why it
cannot be read, is looked up by `file`; `lines` are the lines of an interactive session. -/
def Command.reply (file : String → Except ReadFailure String) (lines : List (Option String)) :
    Command → Reply
  | .run path policy => onFile path fun source => (report (session policy) path source).1
  | .eval source policy => (report (session policy) "<eval>" source).1
  | .interactive policy => transcript (session policy) lines
  | .tokens path => onFile path (listTokens path)
  | .tree path => onFile path (showTree path)
  | .help => ⟨0, helpText, ""⟩
  | .version => ⟨0, versionText, ""⟩
where
  /-- Goes on with the content of a file. -/
  onFile (path : String) (next : String → Reply) : Reply :=
    match file path with
    | .ok source => next source
    | .error failure => ⟨1, "", failure.message path ++ "\n"⟩

/-- Answers an invocation. -/
def reply (args : List String) (file : String → Except ReadFailure String)
    (lines : List (Option String)) : Reply :=
  match Command.ofArgs args with
  | .ok command => command.reply file lines
  | .error refusal => refusal.reply

end StackScript.CommandLine
