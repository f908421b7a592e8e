import HtmlMarkdown.Value.Basic

/-!
# What can go wrong

* `FileProblem`: why a file cannot be read or written; `Error`: why a request fails;
* `Error.message`: the words of an error;
* `Error.isReported`: the errors that the command line reports for one source before it goes on.
-/

namespace HtmlMarkdown

/-! ## Files -/

/-- Why a file or directory cannot be used. -/
inductive FileProblem
  | missing
  | isDirectory
  | notDirectory
  | exists
  | nameTooLong
  deriving DecidableEq

/-- The words of a file problem. -/
def FileProblem.message : FileProblem → Text
  | missing => "No such file or directory".toList
  | isDirectory => "Is a directory".toList
  | notDirectory => "Not a directory".toList
  | «exists» => "File exists".toList
  | nameTooLong => "File name too long".toList

/-- The number of a file problem. -/
def FileProblem.number : FileProblem → Nat
  | missing => 2
  | isDirectory => 21
  | notDirectory => 20
  | «exists» => 17
  | nameTooLong => 36

/-! ## Requests -/

/-- Why a request fails. -/
inductive Error
  /-- What is to be converted is no text. -/
  | inputNotText (value : Value)
  /-- A rule's filter is no tag name, list of tag names or test. -/
  | unsupportedFilter (value : Value)
  /-- A value that was never made a filter is asked whether it matches. -/
  | notFilter (value : Value)
  /-- A value handed in as a rule is none. -/
  | notRule (value : Value)
  /-- The replacement of a rule is no function. -/
  | replacementNotFunction (label : Text)
  /-- The replacement of a rule returns something other than text. -/
  | replacementNotText (label : Text) (type : String)
  /-- No rule matches an element, and its content must not be kept on its own. -/
  | unmatchedElement (tag : String)
  /-- The policy for unmatched elements is unknown. -/
  | unknownPolicy (value : Value)
  /-- A value that is no node is asked for its kind. -/
  | notNode (value : Value)
  /-- A string is asked for its position among elements. -/
  | notAmongElements (text : Text)
  /-- A value of a type is asked for a part that only other types have. -/
  | noPart (type part : String)
  /-- A tag of one character at most is asked for the level after its first character. -/
  | noLevel
  /-- A text that should be a whole number is none. -/
  | notWholeNumber (text : Text)
  /-- The Markdown of an element is not there yet. -/
  | outputMissing
  /-- The markup has a section that cannot be read. -/
  | markupRejected
  /-- The number of a character has more decimal digits than are read. -/
  | tooManyDigits (count : Nat)
  /-- The host of an address has a bracket without its partner, or more around its brackets than it
  may have there. -/
  | invalidHost
  /-- The host in the brackets of an address is no address of the network. -/
  | notNetworkAddress (host : Text)
  /-- The host in the brackets of an address is an address of the network with periods. -/
  | bracketedIPv4
  /-- The host in the brackets of an address begins like one of a later version, but is none. -/
  | invalidIPvFuture
  /-- The host of an address has a character that stands for one which ends a host. -/
  | disguisedHost (host : Text)
  /-- A path has a null character, which no path can have. -/
  | nullInPath
  /-- An option's value is the word that ends the options. -/
  | missingOptionValue
  /-- A file cannot be read. -/
  | unreadable (path : Text) (problem : FileProblem)
  /-- A page cannot be fetched. -/
  | unfetchable (url reason : Text)
  /-- Fetching a page breaks off with an error of another kind. -/
  | fetchBroken (message : Text)
  /-- The output cannot write a text. -/
  | unwritable (reason : Text)
  /-- A source is neither an address nor a file. -/
  | unknownSource (source : Text)
  /-- A result cannot be saved. -/
  | unsaved (path : Text) (problem : FileProblem)
  /-- A caller's function fails of its own accord. -/
  | raised (message : Text)

namespace Error

/-- The most decimal digits of a number that are read. -/
def maxDigits : Nat := 4300

/-- The policies for unmatched elements, as messages list them. -/
def policyNames : List String := ["passthrough", "error"]

/-- The words of an error; two kinds have none. -/
def message : Error → Option Text
  | inputNotText v => some (v.literal ++ " is not a string".toList)
  | unsupportedFilter v => some
      ("`filter` needs to be a string, a collection of strings, or a function, got ".toList ++
        v.literal)
  | notFilter v => some ("Unsupported filter: ".toList ++ v.literal)
  | notRule v => some ("A converter needs a filter and a replacement, got ".toList ++ v.literal)
  | replacementNotFunction label => some
      ("`replacement` of ".toList ++ label ++
        " needs to be a function that returns a string".toList)
  | replacementNotText label type => some
      ("`replacement` of ".toList ++ label ++ " returned ".toList ++ type.toList ++
        ", expected str".toList)
  | unmatchedElement tag => some ("No converter matches <".toList ++ tag.toList ++ ['>'])
  | unknownPolicy v => some
      ("unmatched must be one of ".toList ++
        Text.join ", ".toList (policyNames.map Text.ofString) ++ ", got ".toList ++ v.literal)
  | notNode v => some ("Not a document node: ".toList ++ v.literal)
  | notAmongElements text => some (text.quoted ++ " is not a child of its parent".toList)
  | noPart type part => some
      ('\'' :: type.toList ++ "' object has no attribute '".toList ++ part.toList ++ ['\''])
  | noLevel => some "string index out of range".toList
  | notWholeNumber text => some
      ("invalid literal for int() with base 10: ".toList ++ text.quoted)
  | outputMissing => none
  | markupRejected => none
  | tooManyDigits count => some
      ("Exceeds the limit (".toList ++ Text.ofNat maxDigits ++
        " digits) for integer string conversion: value has ".toList ++ Text.ofNat count ++
        " digits; use sys.set_int_max_str_digits() to increase the limit".toList)
  | invalidHost => some "Invalid IPv6 URL".toList
  | notNetworkAddress host => some
      (host.quoted ++ " does not appear to be an IPv4 or IPv6 address".toList)
  | bracketedIPv4 => some "An IPv4 address cannot be in brackets".toList
  | invalidIPvFuture => some "IPvFuture address is invalid".toList
  | disguisedHost host => some
      ("netloc '".toList ++ host ++
        "' contains invalid characters under NFKC normalization".toList)
  | nullInPath => some "embedded null byte".toList
  | missingOptionValue => some "not enough values to unpack (expected 1, got 0)".toList
  | unreadable path problem => some
      ("Cannot read ".toList ++ path ++ ": ".toList ++ problem.message)
  | unfetchable url reason => some ("Cannot fetch ".toList ++ url ++ ": ".toList ++ reason)
  | fetchBroken message => some message
  | unwritable reason => some reason
  | unknownSource source => some
      ("Cannot handle source: ".toList ++ source ++
        "\nProvide a valid file path or URL.".toList)
  | unsaved path problem => some
      ("[Errno ".toList ++ Text.ofNat problem.number ++ "] ".toList ++ problem.message ++
        ": ".toList ++ path.quoted)
  | raised message => some message

/-- The errors of conversion itself; the command line reports them and goes on. -/
def isReported : Error → Bool
  | inputNotText _ | unsupportedFilter _ | notFilter _ | notRule _ | replacementNotFunction _
  | replacementNotText .. | unmatchedElement _ | unreadable .. | unfetchable .. | unknownSource _ =>
    true
  | unknownPolicy _ | notNode _ | notAmongElements _ | noPart .. | noLevel | notWholeNumber _
  | outputMissing | markupRejected | tooManyDigits _ | invalidHost | notNetworkAddress _
  | bracketedIPv4 | invalidIPvFuture | disguisedHost _ | nullInPath | missingOptionValue
  | fetchBroken _ | unwritable _ | unsaved .. | raised _ => false

end Error

end HtmlMarkdown
