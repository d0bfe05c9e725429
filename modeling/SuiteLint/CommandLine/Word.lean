import SuiteLint.CommandLine.Option
import SuiteLint.Text.Digit

/-!
# Reading the words of a command line

Before any option takes effect, every word of the command line is read on its own:
it is an option, or looks like an option but is none, or is an operand. A long
option may be abbreviated as long as it is clear which one is meant, and may have a
value after an equals sign. A short option may have its value, or further short
options, joined to it. A word that looks like a negative number, or has a space in
it, is an operand after all. So is every word after a double hyphen.
-/

namespace SuiteLint

/-- What is attached to an option in the same word. -/
inductive Attachment
  /-- Nothing. -/
  | nothing
  /-- A text that follows directly. -/
  | joined (text : Text)
  /-- A text after an equals sign. -/
  | equals (text : Text)
  deriving DecidableEq, Repr

/-- How a word of the command line is read. -/
inductive Reading
  /-- As an operand. -/
  | operand
  /-- As the double hyphen, after which there are only operands. -/
  | doubleHyphen
  /-- As something that looks like an option but is none. -/
  | unknown
  /-- As an option. `short` says that it has its short spelling. -/
  | option (switch : Switch) (short : Bool) (attached : Attachment)
  deriving DecidableEq, Repr

namespace Reading

/-- Whether a spelling of an option is a short one. -/
def isShort (spelling : Text) : Bool := !Text.startsWith spelling "--"

/-- The ways to read a word as an abbreviation, or with something joined to a short
option. Each comes with the spelling it takes the word for. -/
def candidates (word : Text) : List (Text × Reading) :=
  if Text.startsWith word "--" then
    let (start, attached) : Text × Attachment :=
      match Text.cutAt '=' word with
      | some (start, value) => (start, .equals value)
      | none => (word, .nothing)
    (Switch.spellings.filter fun entry => Text.startsWith entry.1 start).map fun entry =>
      (entry.1, .option entry.2 false attached)
  else
    (Switch.spellings.filter fun entry => entry.1 = word.take 2).map fun entry =>
      (entry.1, .option entry.2 true (.joined (word.drop 2)))

/-- Whether a text consists of digits, and at least one, up to a newline at its end. -/
def isDigits (text : Text) : Bool :=
  let digits := if Text.endsWith text "\n" then text.dropLast else text
  !digits.isEmpty && digits.all Text.isDigit

/-- Whether a word looks like a negative number. -/
def isNegativeNumber : Text → Bool
  | '-' :: rest =>
    isDigits rest ||
      match rest.dropWhile Text.isDigit with
      | '.' :: places => isDigits places
      | _ => false
  | _ => false

/-- Reads a word that is not the exact spelling of an option, with or without a
value after an equals sign. -/
def ofInexact (word : Text) : Except UsageFault Reading :=
  match candidates word with
  | [(_, reading)] => .ok reading
  | _ :: _ :: _ => .error (.ambiguous word ((candidates word).map Prod.fst))
  | [] =>
    if isNegativeNumber word || word.contains ' ' then .ok .operand else .ok .unknown

/-- Reads a word before any double hyphen. -/
def ofWord (word : Text) : Except UsageFault Reading :=
  if !Text.startsWith word "-" then .ok .operand
  else
    match Switch.ofSpelling? word with
    | some switch => .ok (.option switch (isShort word) .nothing)
    | none =>
      if word = "-" then .ok .operand
      else
        match Text.cutAt '=' word with
        | none => ofInexact word
        | some (spelling, value) =>
          match Switch.ofSpelling? spelling with
          | some switch => .ok (.option switch (isShort spelling) (.equals value))
          | none => ofInexact word

/-- Reads all words of a command line. -/
def ofWords : List Text → Except UsageFault (List (Text × Reading))
  | [] => .ok []
  | word :: words =>
    if word = "--" then .ok ((word, .doubleHyphen) :: words.map fun w => (w, .operand))
    else do
      let reading ← ofWord word
      return (word, reading) :: (← ofWords words)

end Reading

/-! ### Joined options -/

/-- A use of an option: the option, and its value if it takes one. -/
structure Use where
  /-- The option. -/
  switch : Switch
  /-- Its value. -/
  value : Text := []
  deriving DecidableEq, Repr

/-- How a word with options ends. -/
inductive Ending
  /-- With the last option complete. -/
  | complete
  /-- With an option whose value is the next word. -/
  | awaits (switch : Switch)
  /-- With something that is no option. -/
  | surplus (word : Text)
  deriving DecidableEq, Repr

namespace Use

/-- The uses in a word that ends with an option to which nothing is attached. -/
def bare (switch : Switch) : List Use × Ending :=
  if switch.takesValue then ([], .awaits switch) else ([{ switch }], .complete)

/-- The uses in a word that ends with an option and a text after an equals sign. -/
def withEquals (switch : Switch) (value : Text) : Except UsageFault (List Use × Ending) :=
  if switch.takesValue then .ok ([{ switch, value }], .complete)
  else .error (.surplusValue switch value)

/-- The uses in a word with a short option and a text joined to it. The text is the
value of the option, if it takes one, and otherwise the next short option. -/
def withJoined (switch : Switch) : Text → Except UsageFault (List Use × Ending)
  | [] =>
    if switch.takesValue then .ok ([{ switch, value := [] }], .complete)
    else .error (.surplusValue switch [])
  | c :: rest =>
    if switch.takesValue then .ok ([{ switch, value := c :: rest }], .complete)
    else if c = '-' then .error (.surplusValue switch (c :: rest))
    else
      match Switch.ofSpelling? ['-', c] with
      | none => .ok ([{ switch }], .surplus ('-' :: c :: rest))
      | some next => do
        let (uses, ending) ←
          match rest with
          | [] => pure (bare next)
          | '=' :: value => withEquals next value
          | d :: more => withJoined next (d :: more)
        return ({ switch } :: uses, ending)

/-- The uses in a word that is read as an option. -/
def ofOption (switch : Switch) (short : Bool) : Attachment → Except UsageFault (List Use × Ending)
  | .nothing => .ok (bare switch)
  | .equals value => withEquals switch value
  | .joined text => if short then withJoined switch text else withEquals switch text

end Use

end SuiteLint
