import Rewind.CommandLine.Words
import Rewind.Files.Path
import Rewind.Text.Integer

/-!
# Requests

What a command line asks for.  `Request.ofArgs?` refuses whatever is not the name of a command, with
the words and options that the command has.
-/

namespace Rewind.CommandLine

/-- What a command line asks for. -/
inductive Request where
  /-- Say which version of the program this is. -/
  | version
  /-- Check that a trace loads and that its log replays. -/
  | validate (trace : Path) (options : Option Path)
  /-- Show the memory at a position: some addresses, or all if none are named. -/
  | inspect (trace : Path) (options : Option Path) (position : Int) (addresses : List Int)
      (asJson : Bool)
  /-- Show what listeners are told during a move. -/
  | step (trace : Path) (options : Option Path) (start offset : Int)
  deriving DecidableEq, Repr

namespace Request

/-- The option with the path of the options. -/
def configOption : OptionSpec := ⟨"config", some 'c', true⟩

/-- The options in front of the name of a command. -/
def commonOptions : List OptionSpec := [⟨"verbose", some 'v', false⟩]

/-- The options of the command that shows the memory. -/
def inspectOptions : List OptionSpec :=
  [⟨"position", some 'p', true⟩, ⟨"address", some 'a', true⟩, ⟨"json", none, false⟩, configOption]

/-- The options of the command that shows a move. -/
def stepOptions : List OptionSpec := [⟨"from", none, true⟩, ⟨"by", none, true⟩, configOption]

/-- An integer option with a default. -/
def integerOption? (w : Words) (name : String) (default : Int) : Option Int :=
  match w.value? name with
  | some s => Integer.ofArgument? s
  | none => some default

/-- The path that a word spells; no path holds the character that ends one. -/
def path? (word : String) : Option Path :=
  if word.contains '\x00' then none else some (Path.ofText word)

/-- The path of the options, if one is given; none if it is no path. -/
def options? (w : Words) : Option (Option Path) :=
  match w.value? "config" with
  | some word => (path? word).map some
  | none => some none

/-- The only word of a command that is no option, as a path. -/
def trace? (w : Words) : Option Path :=
  match w.others with
  | [word] => path? word
  | _ => none

/-- The request of a command with its own words. -/
def ofCommand? (name : String) (args : List String) : Option Request :=
  if name = "version" then
    match Words.read? [] false args with
    | some ⟨_, []⟩ => some .version
    | _ => none
  else if name = "validate" then do
    let w ← Words.read? [configOption] false args
    return .validate (← trace? w) (← options? w)
  else if name = "inspect" then do
    let w ← Words.read? inspectOptions false args
    return .inspect (← trace? w) (← options? w) (← integerOption? w "position" 0)
      (← (w.values "address").mapM Integer.ofArgument?) (w.has "json")
  else if name = "step" then do
    let w ← Words.read? stepOptions false args
    return .step (← trace? w) (← options? w) (← integerOption? w "from" 0) (← integerOption? w "by" 1)
  else none

/-- The paths of the files that a request names. -/
def paths : Request → List Path
  | version => []
  | validate trace options => trace :: options.toList
  | inspect trace options .. => trace :: options.toList
  | step trace options .. => trace :: options.toList

/-- The request of a command line.  Whether the journal is asked for makes no difference to it. -/
def ofArgs? (args : List String) : Option Request :=
  match Words.read? commonOptions true args with
  | some ⟨_, name :: args⟩ => ofCommand? name args
  | _ => none

end Request

end Rewind.CommandLine
