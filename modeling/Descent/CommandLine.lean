import Descent.Calculator.Batch
import Descent.FileTree

set_option autoImplicit false

namespace Descent.CommandLine

open Calculator (AngleMode)

structure Report where
  exit : Nat := 0
  stdout : String := ""
  stderr : String := ""
  deriving DecidableEq, Repr

def failure (message : String) : Report := { exit := 1, stderr := message }

def unlines (ls : List String) : String := String.join (ls.map (· ++ "\n"))

def usage : String := unlines
  ["weft - parser combinator demos",
   "",
   "Usage: weft <command> [options]",
   "",
   "Commands:",
   "  calc <expression>   Evaluate an arithmetic expression",
   "  batch <file>        Evaluate each non-blank line of a file",
   "  lex <expression>    Show the tokens of an expression",
   "  help                Show this help message",
   "  version             Show version information",
   "",
   "Options (calc, batch):",
   "  --rad               Trigonometry in radians (default)",
   "  --deg               Trigonometry in degrees",
   "  --no-trig           No trigonometric functions",
   "",
   "Logging:",
   "  WEFT_LOG=weft_core=debug   Log filter (RUST_LOG syntax)",
   "  WEFT_DEBUG=trace,errors    Parser traces and rendered failures"]

def version : String := "0.1.0-alpha.1"

def options (mode : AngleMode) (input : Option String) :
    List String → Except Report (AngleMode × Option String)
  | [] => .ok (mode, input)
  | "--deg" :: args => options .degree input args
  | "--rad" :: args => options .radian input args
  | "--no-trig" :: args => options .none input args
  | arg :: args =>
    match input with
    | Option.none => options mode (some arg) args
    | some _ => .error (failure ("error: unexpected argument '" ++ arg ++ "'\n"))

def withCalculator (mode : AngleMode) (f : Calculator → Report) : Report :=
  match Calculator.make mode with
  | .ok c => f c
  | .error e => failure ("internal error: calculator grammar: " ++ e.message ++ "\n")

def evaluate (mode : AngleMode) (expression : String) : Report :=
  withCalculator mode fun c =>
    match (c.run expression).result with
    | .ok x => { stdout := Decimal.render x ++ "\n" }
    | .error e => failure e.report

def padLeft (width : Nat) (s : String) : String :=
  String.ofList (List.replicate (width - s.length) ' ') ++ s

def padRight (width : Nat) (s : String) : String :=
  s ++ String.ofList (List.replicate (width - s.length) ' ')

def tokenLine (l : Lexeme) : String :=
  "  " ++ padLeft 4 (toString l.index) ++ ".." ++ padRight 4 (toString (l.index + l.length)) ++
    " " ++ l.token.render

def lex (expression : String) : Report :=
  match Calculator.tokens expression with
  | .ok lexemes =>
    { stdout := unlines (("Tokens for '" ++ expression ++ "':") :: lexemes.map tokenLine) }
  | .error e => failure e.report

def batch (mode : AngleMode) (path : String) (file : FileContent) : Report :=
  match file with
  | .missing => failure ("cannot find file '" ++ path ++ "'\n")
  | .denied => failure ("permission denied reading '" ++ path ++ "'\n")
  | .invalidText => failure ("'" ++ path ++ "' contains invalid UTF-8 data\n")
  | .unreadable reason => failure ("error reading '" ++ path ++ "': " ++ reason ++ "\n")
  | .text content =>
    withCalculator mode fun c =>
      let results := c.evaluateLines content
      { exit := if results.any fun r => !r.2.isOk then 1 else 0
        stdout := String.join (results.map fun (number, result) =>
          toString number ++ ": " ++ Calculator.renderResult result) }

inductive Request where
  | done (r : Report)
  | file (path : String) (answer : FileContent → Report)

def evaluation (command help : String) (args : List String)
    (answer : AngleMode → String → Request) : Request :=
  match options .radian Option.none args with
  | .error r => .done r
  | .ok (_, Option.none) =>
    .done (failure ("Usage: weft " ++ command ++ " " ++ help ++ " [--deg | --rad | --no-trig]\n"))
  | .ok (mode, some input) => answer mode input

def request : List String → Request
  | [] => .done { stdout := usage }
  | command :: args =>
    if command = "calc" then
      evaluation command "<expression>" args fun mode input => .done (evaluate mode input)
    else if command = "batch" then
      evaluation command "<file>" args fun mode input => .file input (batch mode input)
    else if command = "lex" then
      match args with
      | [] => .done (failure "Usage: weft lex <expression>\n")
      | expression :: _ => .done (lex expression)
    else if command = "help" ∨ command = "--help" ∨ command = "-h" then
      .done { stdout := usage }
    else if command = "version" ∨ command = "--version" ∨ command = "-V" then
      .done { stdout := "weft " ++ version ++ "\n" }
    else
      .done { exit := 1, stdout := usage, stderr := "Unknown command: " ++ command ++ "\n\n" }

def run (files : String → FileContent) (args : List String) : Report :=
  match request args with
  | .done r => r
  | .file path answer => answer (files path)

end Descent.CommandLine
