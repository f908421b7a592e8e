import HtmlMarkdown.Decimal.Number
import HtmlMarkdown.Source.Desk

/-!
# Arguments of the command line

Options may be shortened as long as one option only begins so, and their values may be attached.
Arguments that are no options are sources, as long as they stand in one row.

* `Flag`: the options and their spellings; `Word`: what an argument is taken for, `classify`;
* `Arguments`: what a command line asks for; `Stop`: why nothing is to be done;
* `parseArguments`.
-/

namespace HtmlMarkdown

/-! ## Options -/

/-- The options of the command line. -/
inductive Flag
  | help
  | output
  | gfm
  | strict
  | timeout
  | verbose
  deriving DecidableEq

namespace Flag

/-- All spellings, in the order in which messages list them. -/
def spellings : List (Text × Flag) := [
  ("-h".toList, help), ("--help".toList, help), ("-o".toList, output), ("--output".toList, output),
  ("--gfm".toList, gfm), ("--strict".toList, strict), ("--timeout".toList, timeout),
  ("-v".toList, verbose), ("--verbose".toList, verbose)]

/-- The option with this spelling. -/
def ofSpelling? (s : Text) : Option Flag := spellings.lookup s

/-- How messages name an option: by all its spellings. -/
def title (f : Flag) : Text :=
  Text.join ['/'] ((spellings.filter fun entry => entry.2 = f).map (·.1))

/-- The option takes a value. -/
def takesValue : Flag → Bool
  | output | timeout => true
  | help | gfm | strict | verbose => false

end Flag

/-! ## Words and what they ask for -/

/-- What an argument is taken for: an option in some spelling with an attached value or none,
something that looks like an option and is none, an argument of its own, or the end of the
options. -/
inductive Word
  | option (flag : Flag) (spelling : Text) (attached : Option Text)
  | unknown
  | plain
  | endOfOptions

/-- Why a command line asks for nothing to be done: help is wanted, or it has a fault, or the value
of an option ends the options. -/
inductive Stop
  | help
  | usage (message : Text)
  | noValue

/-- What a command line asks for. -/
structure Arguments where
  sources : List Text := []
  output : Option Text := none
  gfm : Bool := false
  strict : Bool := false
  timeout : Value := defaultTimeout
  verbose : Bool := false

/-! ## Telling options from other arguments -/

/-- A negative number: digits, with a period before the last ones or none, after a hyphen. A line
feed may end it. -/
def looksNegative (s : Text) : Bool :=
  let s := if s.getLast? = some '\n' then s.dropLast else s
  match s with
  | '-' :: s =>
    let rest := s.dropWhile isDecimalDigit
    (!s.isEmpty && rest.isEmpty) ||
      match rest with
      | '.' :: part => !part.isEmpty && part.all isDecimalDigit
      | _ => false
  | _ => false

/-- A text up to its first equals sign, and what follows it. -/
def splitEquals (s : Text) : Text × Option Text :=
  match Text.splitAt? '=' s with
  | some (name, value) => (name, some value)
  | none => (s, none)

/-- The options that a shortened spelling may mean. -/
def candidates (s : Text) : List (Text × Flag × Option Text) :=
  match s with
  | '-' :: '-' :: _ =>
    let (name, value) := splitEquals s
    (Flag.spellings.filter fun entry => name.isPrefixOf entry.1).map fun entry =>
      (entry.1, entry.2, value)
  | _ =>
    (Flag.spellings.filter fun entry => entry.1 = s.take 2).map fun entry =>
      (entry.1, entry.2, some (s.drop 2))

/-- What an argument is taken for. -/
def classify (s : Text) : Except Stop Word :=
  if s.head? ≠ some '-' || s = ['-'] then .ok .plain
  else
    match Flag.ofSpelling? s with
    | some flag => .ok (.option flag s none)
    | none =>
      let (name, value) := splitEquals s
      match value.bind fun _ => Flag.ofSpelling? name with
      | some flag => .ok (.option flag name value)
      | none =>
        match candidates s with
        | [(spelling, flag, value)] => .ok (.option flag spelling value)
        | [] => .ok (if looksNegative s || s.elem ' ' then .plain else .unknown)
        | several => .error (.usage
            ("ambiguous option: ".toList ++ s ++ " could match ".toList ++
              Text.join ", ".toList (several.map (·.1))))

/-- What the arguments are taken for: after the end of the options all are plain. -/
def classifyAll : List Text → Except Stop (List (Word × Text))
  | [] => .ok []
  | s :: rest =>
    if s = ['-', '-'] then .ok ((.endOfOptions, s) :: rest.map fun t => (.plain, t))
    else do
      let word ← classify s
      let words ← classifyAll rest
      return (word, s) :: words

/-! ## Options take effect -/

/-- A fault of an option. -/
def optionFault (flag : Flag) (message : Text) : Stop :=
  .usage ("argument ".toList ++ flag.title ++ ": ".toList ++ message)

/-- A value attached to an option that takes none. -/
def ignoredValue (flag : Flag) (value : Text) : Stop :=
  optionFault flag ("ignored explicit argument ".toList ++ value.quoted)

/-- The options that one argument names, with the values attached to them, and whether the last one
still lacks its value. One hyphen may lead several short options; the last may have the rest for its
value. -/
def expand : (fuel : Nat) → Flag → Text → Option Text →
    Except Stop (List (Flag × Option Text) × Bool)
  | _, flag, _, none => .ok ([(flag, none)], flag.takesValue)
  | 0, flag, _, some value => .error (ignoredValue flag value)
  | fuel + 1, flag, spelling, some value =>
    if flag.takesValue then .ok ([(flag, some value)], false)
    else
      match value with
      | [] => .error (ignoredValue flag value)
      | c :: rest =>
        if spelling.drop 1 |>.head? |>.any (· == '-') then .error (ignoredValue flag value)
        else
          match Flag.ofSpelling? ['-', c] with
          | none => .error (ignoredValue flag value)
          | some next => do
            let (others, lacksValue) ←
              expand fuel next ['-', c] (if rest.isEmpty then none else some rest)
            return ((flag, none) :: others, lacksValue)

/-- One option takes effect. -/
def Arguments.apply (a : Arguments) (flag : Flag) (value : Option Text) : Except Stop Arguments :=
  match flag, value with
  | .help, _ => .error .help
  | .gfm, _ => .ok { a with gfm := true }
  | .strict, _ => .ok { a with strict := true }
  | .verbose, _ => .ok { a with verbose := true }
  | flag, some value =>
    if value = ['-', '-'] then .error .noValue
    else if flag = .output then .ok { a with output := some value }
    else
      match Decimal.read? value with
      | some seconds => .ok { a with timeout := .float seconds }
      | none => .error (optionFault flag ("invalid float value: ".toList ++ value.quoted))
  | flag, none => .error (optionFault flag "expected one argument".toList)

/-- Options take effect, one after another. -/
def Arguments.applyAll (a : Arguments) : List (Flag × Option Text) → Except Stop Arguments
  | [] => .ok a
  | (flag, value) :: rest => do (← a.apply flag value).applyAll rest

/-! ## Reading a command line -/

/-- The row of sources that arguments make: the end of the options is none of them. -/
def sourcesOf (row : List (Word × Text)) : List Text := (row.map (·.2)).erase ['-', '-']

/-- The word is an option or looks like one. -/
def Word.isOption : Word → Bool
  | option .. | unknown => true
  | plain | endOfOptions => false

/-- Reading a command line: what has been asked for, whether the row of sources has come, and the
arguments that nobody asked for. -/
structure ArgumentsReading where
  arguments : Arguments := {}
  hasSources : Bool := false
  extras : List Text := []

/-- A row of arguments that are no options: the first one is the sources. -/
def ArgumentsReading.meetRow (r : ArgumentsReading) (row : List (Word × Text)) : ArgumentsReading :=
  if r.hasSources then { r with extras := r.extras ++ row.map (·.2) }
  else { r with arguments := { r.arguments with sources := sourcesOf row }, hasSources := true }

/-- Arguments are read one after another, as many as `fuel` allows. -/
def readArguments : (fuel : Nat) → ArgumentsReading → List (Word × Text) →
    Except Stop ArgumentsReading
  | 0, r, _ => .ok r
  | _ + 1, r, [] => .ok r
  | fuel + 1, r, (word, s) :: rest =>
    match word with
    | .unknown => readArguments fuel { r with extras := r.extras ++ [s] } rest
    | .option flag spelling attached => do
      let (options, lacksValue) ← expand s.length flag spelling attached
      match lacksValue, rest with
      | true, (.plain, value) :: rest =>
        let options := options.dropLast ++ (options.getLast?.map fun o => (o.1, some value)).toList
        let arguments ← r.arguments.applyAll options
        readArguments fuel { r with arguments } rest
      | true, _ =>
        let fault := (options.getLast?.map (·.1)).getD flag
        throw (optionFault fault "expected one argument".toList)
      | false, _ =>
        let arguments ← r.arguments.applyAll options
        readArguments fuel { r with arguments } rest
    | .plain | .endOfOptions =>
      let row := ((word, s) :: rest).takeWhile fun w => !w.1.isOption
      let after := ((word, s) :: rest).dropWhile fun w => !w.1.isOption
      readArguments fuel (r.meetRow row) after

/-- What a command line asks for. -/
def parseArguments (argv : List Text) : Except Stop Arguments := do
  let words ← classifyAll argv
  let reading ← readArguments (words.length + 1) {} words
  if reading.extras.isEmpty then return reading.arguments
  else throw (.usage ("unrecognized arguments: ".toList ++ Text.join [' '] reading.extras))

end HtmlMarkdown
