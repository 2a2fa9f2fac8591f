import ObjectWatch.Text.Digit

/-!
The command line. A long option may be cut short as long as one option only begins like it, and its value may
follow after `=`. Words are told apart first; an ambiguous option is an error before anything else.
-/

namespace ObjectWatch

/-- What the command line asks for. -/
structure Arguments where
  config : String := "/etc/kcache/watch.yaml"
  verbose : Bool := false
  once : Bool := false
  deriving DecidableEq, Repr

/-- Why the program ends at the command line. -/
inductive Stopped where
  | help
  | usage
  deriving DecidableEq, Repr

namespace Arguments

inductive Flag where
  | help
  | config
  | verbose
  | once
  deriving DecidableEq, Repr

def longNames : List (String × Flag) :=
  [("--help", .help), ("--config", .config), ("--verbose", .verbose), ("--once", .once)]

def shortHelp : String := "-h"

def flagOf? (s : String) : Option Flag :=
  if s = shortHelp then some .help else (longNames.find? (·.1 == s)).map (·.2)

inductive Word where
  | plain (s : String)
  /-- Two dashes alone: no options follow. -/
  | separator
  | option (flag : Flag) (value : Option String)
  | unknown (s : String)
  deriving DecidableEq, Repr

/-- The text before the first `=` and the text after it. -/
def splitValue (s : String) : String × Option String :=
  let cs := s.toList
  match cs.dropWhile (· ≠ '=') with
  | [] => (s, none)
  | _ :: value => (String.ofList (cs.takeWhile (· ≠ '=')), some (String.ofList value))

/-- Digits with at most one point, which has a digit after it. A line feed may follow. -/
def isNumber (cs : List Char) : Bool :=
  let isDigit (c : Char) : Bool := (Text.digitValue? c).isSome
  let cs := if cs.getLast? = some '\n' then cs.dropLast else cs
  match cs.dropWhile isDigit with
  | [] => !cs.isEmpty
  | '.' :: part => !part.isEmpty && part.all isDigit
  | _ => false

/-- The help under its short name with more letters in the same word. It may be repeated; what follows then
is not looked at, unless it gives a value or begins with a dash. -/
def Word.ofShort (letters : List Char) : Word :=
  match letters.dropWhile (· = 'h') with
  | '=' :: _ | '-' :: _ => .option .help (some (String.ofList letters))
  | _ => .option .help none

/-- Tells what a word is. A dash alone, a negative number and a word with a space are no options. -/
def Word.of (s : String) : Except Stopped Word :=
  match s.toList with
  | '-' :: second :: rest =>
    match flagOf? s with
    | some flag => .ok (.option flag none)
    | none =>
      let (name, value) := splitValue s
      match if value.isSome then flagOf? name else none with
      | some flag => .ok (.option flag value)
      | none =>
        let found := if second = '-' then longNames.filter fun entry => name.isPrefixOf entry.1 else []
        match found with
        | [(_, flag)] => .ok (.option flag value)
        | _ :: _ :: _ => .error .usage
        | [] =>
          if second = 'h' then .ok (.ofShort rest)
          else if isNumber (second :: rest) || s.toList.contains ' ' then .ok (.plain s)
          else .ok (.unknown s)
  | _ => .ok (.plain s)

/-- The words of a command line. After two dashes alone all are plain. -/
def Word.list : List String → Except Stopped (List Word)
  | [] => .ok []
  | s :: rest =>
    if s = "--" then .ok (.separator :: rest.map .plain)
    else do
      let word ← Word.of s
      .ok (word :: (← Word.list rest))

/-- Goes through the words; `extra` says whether one was of no use. -/
def collect (extra : Bool) : List Word → Arguments → Except Stopped Arguments
  | [], a => if extra then .error .usage else .ok a
  | .option .help none :: _, _ => .error .help
  | .option .config (some s) :: rest, a => collect extra rest { a with config := s }
  | .option .config none :: .plain s :: rest, a => collect extra rest { a with config := s }
  | .option .verbose none :: rest, a => collect extra rest { a with verbose := true }
  | .option .once none :: rest, a => collect extra rest { a with once := true }
  | .option _ _ :: _, _ => .error .usage
  | .plain _ :: rest, a | .separator :: rest, a | .unknown _ :: rest, a => collect true rest a

def parse (args : List String) : Except Stopped Arguments := do
  let words ← Word.list args
  collect false words {}

end Arguments

end ObjectWatch
