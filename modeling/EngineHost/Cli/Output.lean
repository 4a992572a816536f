import EngineHost.Number.IntText
import EngineHost.Text.Hex

/-!
# Output of the command line tool

The report of a compile is printed as plain lines or as one JSON object. Texts of the object are in
ASCII: every other character is escaped, one beyond the basic plane as two halves.
-/

namespace EngineHost.Cli

open EngineHost.Text

def escapeUnit (n : Nat) : List Char := '\\' :: 'u' :: hexDigits 4 n

def jsonChar (c : Char) : List Char :=
  match c with
  | '"' => ['\\', '"']
  | '\\' => ['\\', '\\']
  | '\n' => ['\\', 'n']
  | '\r' => ['\\', 'r']
  | '\t' => ['\\', 't']
  | '\x08' => ['\\', 'b']
  | '\x0c' => ['\\', 'f']
  | c =>
    let n := c.toNat
    if 0x20 ≤ n && n < 0x7f then [c]
    else if n < 0x10000 then escapeUnit n
    else
      escapeUnit (0xd800 + (n - 0x10000) / 0x400) ++ escapeUnit (0xdc00 + (n - 0x10000) % 0x400)

def jsonText (s : String) : String :=
  String.ofList ('"' :: (s.toList.flatMap jsonChar ++ ['"']))

def jsonTexts (texts : List String) : String :=
  "[" ++ ", ".intercalate (texts.map jsonText) ++ "]"

def jsonReport (exitCode : Nat) (lines errLines : List String) : String :=
  "\x7b\"exit_code\": " ++ Number.intText exitCode ++ ", \"lines\": " ++ jsonTexts lines ++
    ", \"stderr\": " ++ jsonTexts errLines ++ "\x7d"

def printLines (lines : List String) : String := String.join (lines.map (· ++ "\n"))

def usage : String :=
  "usage: fschost [-h] [-C DIRECTORY] [--engine ENGINE] [--json] [-v]\n" ++
  "               command_line\n"

def help : String :=
  usage ++
  "\nRun a compiler engine in-process and print its diagnostics\n" ++
  "\npositional arguments:\n" ++
  "  command_line          Compiler command line (a single string, double quotes\n" ++
  "                        group spaces)\n" ++
  "\noptions:\n" ++
  "  -h, --help            show this help message and exit\n" ++
  "  -C DIRECTORY, --directory DIRECTORY\n" ++
  "                        Working directory to switch to before compiling\n" ++
  "                        (default: current directory)\n" ++
  "  --engine ENGINE       Engine callable as MODULE:ATTR (default:\n" ++
  "                        $FSCHOST_ENGINE)\n" ++
  "  --json                Emit exit_code/lines/stderr as a JSON object\n" ++
  "  -v, --verbose         Log debug information to stderr\n"

def errorLabel : String := "fschost: error: "

end EngineHost.Cli
