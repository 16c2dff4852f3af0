import AppletPage.Text.Ascii
import AppletPage.Text.Digit
import AppletPage.Text.Quoted
import AppletPage.Text.Split

/-! The options of the command that writes a page. A long option may be cut short as long as no
other begins alike, and its value may follow an equals sign. All arguments are told apart before
the first takes effect. -/

namespace AppletPage.Command

open Text

inductive Flag where
  | help
  | home
  | out
  | listParameters
deriving DecidableEq

namespace Flag

def spellings : List (String × Flag) :=
  [("-h", .help), ("--help", .help), ("--home", .home), ("--out", .out),
   ("--list-params", .listParameters)]

def takesValue : Flag → Bool
  | home | out => true
  | help | listParameters => false

def shown : Flag → String
  | help => "-h/--help"
  | home => "--home"
  | out => "--out"
  | listParameters => "--list-params"

end Flag

/-- The value of an option. The mark behind which all arguments are values is none itself: where it
is attached to an option, the option has an empty list. -/
inductive OptionValue where
  | text (text : String)
  | emptyList
deriving DecidableEq

def OptionValue.ofText (text : String) : OptionValue :=
  if text = "--" then .emptyList else .text text

structure Options where
  home : Option OptionValue := none
  out : Option OptionValue := none
  listParameters : Bool := false
deriving DecidableEq

inductive UsageError where
  | ambiguous (argument : String) (candidates : List String)
  | missingValue (flag : Flag)
  | needlessValue (flag : Flag) (value : String)
  | unrecognized (arguments : List String)
deriving DecidableEq

namespace UsageError

def message : UsageError → String
  | ambiguous argument candidates =>
      "ambiguous option: " ++ argument ++ " could match " ++ String.intercalate ", " candidates
  | missingValue flag => "argument " ++ flag.shown ++ ": expected one argument"
  | needlessValue flag value =>
      "argument " ++ flag.shown ++ ": ignored explicit argument " ++ quote value
  | unrecognized arguments => "unrecognized arguments: " ++ String.intercalate " " arguments

end UsageError

inductive Argument where
  | value (text : String)
  | option (flag : Flag) (spelling : String) (attached : Option String)
  | unknown (text : String)
  /-- The mark behind which all arguments are values. -/
  | mark
deriving DecidableEq

namespace Argument

def cutAtEquals (text : String) : String × Option String :=
  let before := text.toList.takeWhile (· ≠ '=')
  match text.toList.drop before.length with
  | _ :: rest => (String.ofList before, some (String.ofList rest))
  | [] => (text, none)

/-- The option that an argument may be short for, with the value attached to it. -/
def candidate? (text : String) (entry : String × Flag) : Option Argument :=
  let chars := text.toList
  if "--".toList.isPrefixOf chars then
    let (name, attached) := cutAtEquals text
    if name.toList.isPrefixOf entry.1.toList then some (.option entry.2 entry.1 attached)
    else none
  else if entry.1.toList = chars.take 2 then
    some (.option entry.2 entry.1 (some (String.ofList (chars.drop 2))))
  else if chars.isPrefixOf entry.1.toList then
    some (.option entry.2 entry.1 none)
  else
    none

def spelling : Argument → String
  | option _ spelling _ => spelling
  | value text | unknown text => text
  | mark => "--"

def isDecimal (c : Char) : Bool := (digitValue? c).isSome

def isNegativeNumber (text : String) : Bool :=
  match withoutLineEnd text.toList with
  | '-' :: rest =>
      let whole := rest.takeWhile isDecimal
      match rest.dropWhile isDecimal with
      | [] => !whole.isEmpty
      | '.' :: places => !places.isEmpty && places.all isDecimal
      | _ => false
  | _ => false

def classify (text : String) : Except UsageError Argument :=
  if text = "--" then .ok .mark
  else if text.toList.head? ≠ some '-' then .ok (.value text)
  else
    match Flag.spellings.lookup text with
    | some flag => .ok (.option flag text none)
    | none =>
        if text = "-" then .ok (.value text)
        else
          let (name, attached) := cutAtEquals text
          match if attached.isSome then Flag.spellings.lookup name else none with
          | some flag => .ok (.option flag name attached)
          | none =>
              match Flag.spellings.filterMap (candidate? text) with
              | [found] => .ok found
              | [] =>
                  if isNegativeNumber text || text.toList.contains ' ' then .ok (.value text)
                  else .ok (.unknown text)
              | several => .error (.ambiguous text (several.map spelling))

def classifyAll : List String → Except UsageError (List Argument)
  | [] => .ok []
  | text :: rest =>
      match classify text with
      | .error error => .error error
      | .ok .mark => .ok (.mark :: rest.map .value)
      | .ok argument =>
          match classifyAll rest with
          | .ok others => .ok (argument :: others)
          | .error error => .error error

end Argument

inductive Parsed where
  | help
  | run (options : Options)
deriving DecidableEq

/-- The options that come from single letters behind one hyphen, of which `flag` is the first. -/
def letterFlags (flag : Flag) : List Char → Except UsageError (List Flag)
  | [] => .ok [flag]
  | c :: rest =>
      match Flag.spellings.lookup (String.ofList ['-', c]) with
      | some next => (letterFlags next rest).map (flag :: ·)
      | none => .error (.needlessValue flag (String.ofList (c :: rest)))

structure Progress where
  options : Options := {}
  extra : List String := []

def Options.give (options : Options) (flag : Flag) (value : String) : Options :=
  match flag with
  | .home => { options with home := some (.ofText value) }
  | .out => { options with out := some (.ofText value) }
  | .listParameters => { options with listParameters := true }
  | .help => options

def Progress.give (progress : Progress) (flag : Flag) (value : String) : Progress :=
  { progress with options := progress.options.give flag value }

/-- Carries out arguments in order; help ends the work at once. -/
def carryOut (progress : Progress) : List Argument → Except UsageError Parsed
  | [] =>
      if progress.extra.isEmpty then .ok (.run progress.options)
      else .error (.unrecognized progress.extra.reverse)
  | .value text :: rest | .unknown text :: rest =>
      carryOut { progress with extra := text :: progress.extra } rest
  | .mark :: rest => carryOut { progress with extra := "--" :: progress.extra } rest
  | .option flag spelling (some value) :: rest =>
      if flag.takesValue then carryOut (progress.give flag value) rest
      else if value = "" || "--".toList.isPrefixOf spelling.toList then
        .error (.needlessValue flag value)
      else
        match letterFlags flag value.toList with
        | .ok _ => .ok .help
        | .error error => .error error
  | .option flag _ none :: rest =>
      if flag.takesValue then
        match rest with
        | .value value :: rest => carryOut (progress.give flag value) rest
        | _ => .error (.missingValue flag)
      else if flag = .help then .ok .help
      else carryOut (progress.give flag "") rest

def parse (arguments : List String) : Except UsageError Parsed :=
  match Argument.classifyAll arguments with
  | .error error => .error error
  | .ok arguments => carryOut {} arguments

def programName : String := "python -m jinpage.internal.render_page"

def usage : String :=
  "usage: " ++ programName ++ " [-h] [--home HOME] [--out OUT]\n"
    ++ "                                              [--list-params]\n"

def helpText : String :=
  usage ++ "\n"
    ++ "Write the applet page for static hosting (no server).\n"
    ++ "\n"
    ++ "options:\n"
    ++ "  -h, --help     show this help message and exit\n"
    ++ "  --home HOME    Override JINPAGE_HOME\n"
    ++ "  --out OUT      Write the page to this file instead of stdout\n"
    ++ "  --list-params  Print the parameter set and plugin list as JSON instead of\n"
    ++ "                 the page\n"

def UsageError.report (error : UsageError) : String :=
  usage ++ programName ++ ": error: " ++ error.message ++ "\n"

end AppletPage.Command
