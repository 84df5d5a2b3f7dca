import Provision.Text.Case
import Provision.Text.Quoted
import Provision.Text.Blank

/-!
# Command lines

* `CommandOption`, `Grammar`: the options and the one operand that a program takes.
* `Word`: a word of a command line, as an option, as an operand, or as the divider `--`.
* `Grammar.read`: what a command line asks for, or why reading it ends.

The name of a long option may be cut short as long as only one option begins so; its value follows
as the next word or after `=`. Options of one letter may stand together in one word, the last of
them with its value. After the divider there are no options.
-/

namespace Provision

/-- What an option takes. -/
inductive OptionUse where
  /-- No value. -/
  | flag
  /-- One value, which has to be among the choices if there are any. -/
  | value (choices : List String)
  /-- No value; reading ends with it. -/
  | halt
deriving DecidableEq, Repr

/-- An option. -/
structure CommandOption where
  /-- Its names, the short one first. -/
  names : List String
  use : OptionUse
  required : Bool
deriving DecidableEq, Repr

/-- The names of an option in a message. -/
def CommandOption.title (o : CommandOption) : String := Text.join "/" o.names

/-- What a program takes on its command line. -/
structure Grammar where
  /-- The program, as its messages name it. -/
  program : String
  options : List CommandOption
  operand : String
  /-- What the operand may be; anything if there are no choices. -/
  choices : List String
  /-- Whether all words after the operand belong to it. -/
  takesRest : Bool
deriving DecidableEq, Repr

/-- What is wrong about a command line, as a program says it. -/
structure Misuse where
  program : String
  message : String
deriving DecidableEq, Repr

/-- Why reading a command line ends before its end. -/
inductive Halt where
  /-- The command line is wrong. -/
  | misuse (m : Misuse)
  /-- An option asks for something else. -/
  | asked (o : CommandOption)
deriving DecidableEq, Repr

/-- What a command line asks for. -/
structure Parsed where
  /-- The options given, in order, with their values. -/
  given : List (CommandOption × Option String)
  /-- The operand and the words that belong to it. -/
  operand : Option (List String)
  /-- Words that mean nothing. -/
  extras : List String
deriving DecidableEq, Repr

/-- An option as a word gives it. -/
structure Mention where
  option : CommandOption
  /-- Whether it is named by a letter. -/
  isShort : Bool
  /-- The rest of the word, if it has one. -/
  rest : Option (List Char)
deriving DecidableEq, Repr

/-- A word of a command line. -/
inductive Word where
  | plain (text : String)
  | divider
  /-- An option, known or not. -/
  | option (text : String) (mention : Option Mention)
deriving DecidableEq, Repr

namespace Word

/-- The word as it was written. -/
def text : Word → String
  | plain t => t
  | divider => "--"
  | option t _ => t

/-- Whether a word is an option. -/
def isOption : Word → Bool
  | option _ _ => true
  | _ => false

end Word

namespace Grammar

/-- The command line is wrong. -/
def refuse {α : Type} (g : Grammar) (message : String) : Except Halt α :=
  .error (.misuse ⟨g.program, message⟩)

/-- Something is wrong about one option or operand. -/
def refuseAbout {α : Type} (g : Grammar) (title message : String) : Except Halt α :=
  g.refuse ("argument " ++ title ++ ": " ++ message)

/-- The names of all options. -/
def named (g : Grammar) : List (String × CommandOption) :=
  g.options.flatMap fun o => o.names.map fun n => (n, o)

/-- The option with a given name. -/
def option? (g : Grammar) (name : String) : Option CommandOption :=
  (g.named.find? fun e => e.1 == name).map (·.2)

/-! ## Words -/

/-- A name and, if there is one, what follows the first `=`. -/
def cutAtEquals (cs : List Char) : List Char × Option (List Char) :=
  match cs.dropWhile (· != '=') with
  | [] => (cs, none)
  | _ :: rest => (cs.takeWhile (· != '='), some rest)

/-- The options that a word which is no option's full name may stand for, with their names. -/
def candidates (g : Grammar) (cs : List Char) : List (String × Mention) :=
  match cs with
  | '-' :: '-' :: _ =>
    let (start, rest) := cutAtEquals cs
    (g.named.filter fun e => Text.startsWith start e.1.toList).map fun e =>
      (e.1, ⟨e.2, false, rest⟩)
  | '-' :: letter :: rest =>
    g.named.filterMap fun e =>
      if e.1.toList = ['-', letter] then some (e.1, ⟨e.2, true, some rest⟩)
      else if Text.startsWith cs e.1.toList then some (e.1, ⟨e.2, true, none⟩)
      else none
  | _ => []

/-- Whether a text is a minus sign before digits, of which there may be some after a point. -/
def isNegativeNumber (cs : List Char) : Bool :=
  let isDigit (c : Char) : Bool := (Text.decimalValue? c).isSome
  match cs with
  | '-' :: rest =>
    let whole := rest.takeWhile isDigit
    match rest.dropWhile isDigit with
    | [] => !whole.isEmpty
    | ['\n'] => !whole.isEmpty
    | '.' :: places =>
      let fraction := places.takeWhile isDigit
      !fraction.isEmpty && (places.dropWhile isDigit).all (· == '\n') &&
        (places.dropWhile isDigit).length ≤ 1
    | _ => false
  | _ => false

/-- What a word means that begins with a hyphen and is no option's full name. -/
def wordOf (g : Grammar) (text : String) : Except Halt Word :=
  match g.candidates text.toList with
  | [(_, m)] => .ok (.option text (some m))
  | [] =>
    if isNegativeNumber text.toList || text.toList.contains ' ' then .ok (.plain text)
    else .ok (.option text none)
  | several =>
    g.refuse ("ambiguous option: " ++ text ++ " could match " ++
      Text.join ", " (several.map (·.1)))

/-- Whether an option is named by a letter. -/
def isLetter (name : List Char) : Bool :=
  match name with
  | '-' :: '-' :: _ => false
  | _ => true

/-- What a word before the divider means. -/
def word (g : Grammar) (text : String) : Except Halt Word :=
  match text.toList with
  | '-' :: _ :: _ =>
    match g.option? text with
    | some o => .ok (.option text (some ⟨o, isLetter text.toList, none⟩))
    | none =>
      match cutAtEquals text.toList with
      | (name, some rest) =>
        match g.option? (String.ofList name) with
        | some o => .ok (.option text (some ⟨o, isLetter name, some rest⟩))
        | none => g.wordOf text
      | (_, none) => g.wordOf text
  | _ => .ok (.plain text)

/-- What the words of a command line mean; all after the divider are operands. -/
def words (g : Grammar) : List String → Except Halt (List Word)
  | [] => .ok []
  | text :: rest =>
    if text = "--" then .ok (.divider :: rest.map .plain)
    else do
      let w ← g.word text
      let ws ← words g rest
      return w :: ws

/-! ## Options in a word -/

/-- How the options in a word end. -/
inductive Tail where
  /-- An option whose value, if it takes one, is the next word. -/
  | pending (o : CommandOption)
  /-- An option with its value. -/
  | closed (o : CommandOption) (value : String)

/-- The options in a word: those without a value that come first, and how they end. What follows an
option of one letter without a value are letters of further options. -/
def unfold (g : Grammar) (o : CommandOption) (isShort : Bool) (rest : List Char) :
    Except Halt (List CommandOption × Tail) :=
  match o.use with
  | .value _ => .ok ([], .closed o (String.ofList rest))
  | _ =>
    let ignored : Except Halt (List CommandOption × Tail) :=
      g.refuseAbout o.title
        ("ignored explicit argument " ++ Text.quoted (String.ofList rest))
    match rest with
    | [] => ignored
    | c :: more =>
      match (g.option? (String.ofList ['-', c])).filter fun _ => isShort with
      | none => ignored
      | some next =>
        if more.isEmpty then .ok ([o], .pending next)
        else (unfold g next true more).map fun r => (o :: r.1, r.2)
termination_by rest.length

/-- Takes an option with its value. A divider is no value, not even as the rest of a word, so that
an option with one is left without a value. -/
def take (g : Grammar) (p : Parsed) (o : CommandOption) (value : String) : Except Halt Parsed :=
  match o.use with
  | .halt => .error (.asked o)
  | .flag => .ok { p with given := p.given ++ [(o, none)] }
  | .value choices =>
    if value = Word.divider.text then .ok { p with given := p.given ++ [(o, none)] }
    else if choices.isEmpty || choices.contains value then
      .ok { p with given := p.given ++ [(o, some value)] }
    else
      g.refuseAbout o.title ("invalid choice: " ++ Text.quoted value ++ " (choose from " ++
        Text.join ", " (choices.map Text.quoted) ++ ")")

/-- Takes options without values. -/
def takeAll (g : Grammar) (p : Parsed) (os : List CommandOption) : Except Halt Parsed :=
  os.foldlM (fun p o => g.take p o "") p

/-- Takes the options in a word, and the next word if that is a value. -/
def takeMention (g : Grammar) (p : Parsed) (m : Mention) (rest : List Word) :
    Except Halt (Parsed × List Word) := do
  let (first, tail) ←
    match m.rest with
    | none => pure ([], Tail.pending m.option)
    | some cs => g.unfold m.option m.isShort cs
  match tail with
  | .closed o value => return (← g.take (← g.takeAll p first) o value, rest)
  | .pending o =>
    match o.use with
    | .value _ =>
      match rest with
      | .plain value :: rest => return (← g.take (← g.takeAll p first) o value, rest)
      | _ => g.refuseAbout o.title "expected one argument"
    | _ => return (← g.take (← g.takeAll p first) o "", rest)

/-! ## The operand -/

/-- The words of an operand at the start, and those after it: dividers before it belong to it, and
so do those after it, or all words. -/
def operandWords? (g : Grammar) (ws : List Word) : Option (List Word × List Word) :=
  let before := ws.takeWhile (· == .divider)
  match ws.dropWhile (· == .divider) with
  | .plain t :: rest =>
    if g.takesRest then some (ws, [])
    else
      let after := rest.takeWhile (· == .divider)
      some (before ++ .plain t :: after, rest.dropWhile (· == .divider))
  | _ => none

/-- The texts of an operand; unless all words belong to it, its first divider goes. -/
def operandTexts (g : Grammar) (ws : List Word) : List String :=
  let texts := ws.map Word.text
  if g.takesRest then texts else texts.erase "--"

/-- Takes an operand. -/
def takeOperand (g : Grammar) (p : Parsed) (ws : List Word) : Except Halt Parsed :=
  let texts := g.operandTexts ws
  let first := texts.headD ""
  if g.choices.isEmpty || g.choices.contains first then .ok { p with operand := some texts }
  else
    g.refuseAbout g.operand ("invalid choice: " ++ Text.quoted first ++ " (choose from " ++
      Text.join ", " (g.choices.map Text.quoted) ++ ")")

/-- The operand at the start of words, if it is still missing and stands there. -/
def findOperand (g : Grammar) (p : Parsed) (ws : List Word) : Option (List Word × List Word) :=
  match p.operand with
  | some _ => none
  | none => g.operandWords? ws

/-! ## The whole line -/

/-- Reads words: operands and options in turn as long as there are options, and then once more an
operand. At most `fuel` turns are taken. -/
def readWords (g : Grammar) (p : Parsed) : Nat → List Word → Except Halt Parsed
  | 0, ws => .ok { p with extras := p.extras ++ ws.map Word.text }
  | fuel + 1, ws =>
    if ws.any Word.isOption then
      match ws with
      | .option text none :: rest => readWords g { p with extras := p.extras ++ [text] } fuel rest
      | .option _ (some m) :: rest => do
        let (p, rest) ← g.takeMention p m rest
        readWords g p fuel rest
      | ws =>
        match g.findOperand p ws with
        | some (mine, rest) => do readWords g (← g.takeOperand p mine) fuel rest
        | none =>
          let stray := (ws.takeWhile fun w => !w.isOption).map Word.text
          readWords g { p with extras := p.extras ++ stray } fuel
            (ws.dropWhile fun w => !w.isOption)
    else
      match g.findOperand p ws with
      | some (mine, rest) => do
        let p ← g.takeOperand p mine
        return { p with extras := p.extras ++ rest.map Word.text }
      | none => .ok { p with extras := p.extras ++ ws.map Word.text }

/-- What is required and was not given. -/
def missing (g : Grammar) (p : Parsed) : List String :=
  (if p.operand.isNone then [g.operand] else []) ++
    (g.options.filter fun o => o.required && !p.given.any fun e => e.1 == o).map CommandOption.title

/-- What a command line asks for. -/
def read (g : Grammar) (arguments : List String) : Except Halt Parsed := do
  let ws ← g.words arguments
  let p ← g.readWords ⟨[], none, []⟩ (ws.length + 1) ws
  let missing := g.missing p
  if missing.isEmpty then return p
  else g.refuse ("the following arguments are required: " ++ Text.join ", " missing)

end Grammar

namespace Parsed

/-- Whether an option was given. -/
def has (p : Parsed) (name : String) : Bool := p.given.any fun e => e.1.names.contains name

/-- How an option was given last: with its value, or without one. -/
def last? (p : Parsed) (name : String) : Option (Option String) :=
  (p.given.reverse.find? fun e => e.1.names.contains name).map (·.2)

/-- The value that an option was given last. -/
def value? (p : Parsed) (name : String) : Option String := (p.last? name).join

end Parsed

end Provision
