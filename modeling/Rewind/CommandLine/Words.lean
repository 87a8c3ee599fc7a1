/-!
# Words of a command line

Options and other words.  An option has a long name after two dashes, or one letter after one dash;
a value is the next word, or what follows an equals sign or the letter.  `Words.read?` tells the two
apart and refuses options that are not known, values that are not wanted, and values that are
missing.
-/

namespace Rewind.CommandLine

/-- An option that a command has. -/
structure OptionSpec where
  /-- The long name, without its dashes. -/
  name : String
  letter : Option Char
  takesValue : Bool

/-- The words of a command line, told apart. -/
structure Words where
  /-- The options with their values, in order; an option that takes no value has an empty one. -/
  options : List (String × String)
  /-- The words that belong to no option. -/
  others : List String
  deriving DecidableEq, Repr

namespace Words

/-- Puts an option in front. -/
def addOption (name value : String) (w : Words) : Words :=
  { w with options := (name, value) :: w.options }

/-- Puts other words in front. -/
def addOthers (words : List String) (w : Words) : Words := { w with others := words ++ w.others }

/-- The values of an option, in order. -/
def values (w : Words) (name : String) : List String :=
  (w.options.filter fun o => o.1 = name).map Prod.snd

/-- The last value of an option. -/
def value? (w : Words) (name : String) : Option String := (w.values name).getLast?

/-- Whether an option is given. -/
def has (w : Words) (name : String) : Bool := (w.value? name).isSome

/-- What a word that starts with a dash says: options with their values, and the option, if there is
one, whose value is the next word. -/
structure Dashed where
  options : List (String × String)
  awaiting : Option String

/-- A long option, after its two dashes. -/
def long? (specs : List OptionSpec) (cs : List Char) : Option Dashed :=
  let name := String.ofList (cs.takeWhile (· ≠ '='))
  match specs.find? fun s => s.name = name, cs.dropWhile (· ≠ '=') with
  | none, _ => none
  | some s, [] => some (if s.takesValue then ⟨[], some s.name⟩ else ⟨[(s.name, "")], none⟩)
  | some s, _ :: value => if s.takesValue then some ⟨[(s.name, String.ofList value)], none⟩ else none

/-- Options of one letter, after their dash. -/
def letters? (specs : List OptionSpec) : List Char → Option Dashed
  | [] => some ⟨[], none⟩
  | c :: rest =>
    match specs.find? fun s => s.letter = some c with
    | none => none
    | some s =>
      if s.takesValue then
        some (if rest.isEmpty then ⟨[], some s.name⟩ else ⟨[(s.name, String.ofList rest)], none⟩)
      else (letters? specs rest).map fun d => { d with options := (s.name, "") :: d.options }

/-- The options of a word; none inside if the word is no option at all. -/
def dashed? (specs : List OptionSpec) (word : String) : Option (Option Dashed) :=
  match word.toList with
  | '-' :: '-' :: name => (long? specs name).map some
  | '-' :: c :: letters => (letters? specs (c :: letters)).map some
  | _ => some none

/-- Reads words one by one; the value of the option `awaiting` is next.  With `untilOther`,
everything from the first word on that is no option is left as it is. -/
def readFrom? (specs : List OptionSpec) (untilOther : Bool) :
    Option String → List String → Option Words
  | some _, [] => none
  | none, [] => some ⟨[], []⟩
  | some name, word :: rest => (readFrom? specs untilOther none rest).map (addOption name word)
  | none, word :: rest =>
    if word = "--" then some ⟨[], rest⟩
    else
      match dashed? specs word with
      | none => none
      | some none =>
        if untilOther then some ⟨[], word :: rest⟩
        else (readFrom? specs untilOther none rest).map (addOthers [word])
      | some (some d) =>
        (readFrom? specs untilOther d.awaiting rest).map fun w =>
          { w with options := d.options ++ w.options }

/-- Reads the words of a command with some options. -/
def read? (specs : List OptionSpec) (untilOther : Bool) (args : List String) : Option Words :=
  readFrom? specs untilOther none args

end Words

end Rewind.CommandLine
