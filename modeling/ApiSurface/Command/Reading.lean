import ApiSurface.Command.Options
import ApiSurface.Text.Segments

/-!
# Reading command lines

A value follows its option as the next argument, which may not start with a hyphen unless it is a
hyphen alone, or stands in the same argument after an equals sign. An option whose value follows
is open until the next option or the end. It is committed then, but an argument that is unknown is
refused at once, whatever is still open.

Main definition: `Options.ofArguments`.
-/
namespace ApiSurface.Command

/-- The form of an argument. -/
inductive Argument where
  /-- Two hyphens alone: no options follow. -/
  | terminator
  /-- Two hyphens and a name, and a value after an equals sign. -/
  | named (name : String) (value : Option String)
  /-- A hyphen and letters. -/
  | letters (letters : List Char)
  | value (text : String)

/-- The form of an argument. -/
def Argument.ofText (text : String) : Argument :=
  match text.toList with
  | ['-', '-'] => .terminator
  | '-' :: '-' :: rest =>
    match rest.dropWhile (· ≠ '=') with
    | _ :: attached =>
      .named (String.ofList (rest.takeWhile (· ≠ '='))) (some (String.ofList attached))
    | [] => .named (String.ofList rest) none
  | '-' :: c :: rest => .letters (c :: rest)
  | _ => .value text

/-- An option whose value may still follow. -/
structure Pending where
  option : ValueOption
  value : Option String

/-- Commit the option that is open, if any. -/
def settle (o : Options) : Option Pending → Except Refusal Options
  | none => .ok o
  | some p => o.commit p.option p.value

/-- Switch on options by their letters. -/
def turnOnLetters (pending : Option Pending) (o : Options) :
    List Char → Except Refusal Options
  | [] => settle o pending
  | c :: cs =>
    match switchLetters.find? (·.1 = c) with
    | none => .error .unknownArgument
    | some (_, switch) => do
      let o ← settle o pending
      let o ← o.turnOn switch
      turnOnLetters none o cs

/-- The entry of a name in a table of options. -/
def named? {α : Type} (table : List (String × α)) (name : String) : Option α :=
  (table.find? (·.1 = name)).map (·.2)

/-- Read a named option, and which option is open after it. -/
def readNamed (o : Options) (pending : Option Pending) (name : String) (value : Option String) :
    Except Refusal (Options × Option Pending) :=
  match named? valueOptions name, named? switches name, value with
  | some option, _, none => do
    let o ← settle o pending
    .ok (o, some ⟨option, none⟩)
  | some option, _, some value => do
    let o ← settle o pending
    let o ← o.commit option (some value)
    .ok (o, none)
  | none, some _, some _ => .error .needlessValue
  | none, some switch, none => do
    let o ← settle o pending
    let o ← o.turnOn switch
    .ok (o, none)
  | none, none, _ => .error .unknownArgument

/-- Read arguments from left to right. -/
def readFrom (o : Options) (pending : Option Pending) :
    List String → Except Refusal Options
  | [] => settle o pending
  | text :: texts =>
    match Argument.ofText text with
    | .terminator => if texts.isEmpty then settle o pending else .error .unknownArgument
    | .named name value => do
      let (o, pending) ← readNamed o pending name value
      readFrom o pending texts
    | .letters letters => do
      let o ← turnOnLetters pending o letters
      readFrom o none texts
    | .value text =>
      match pending with
      | some ⟨option, none⟩ => readFrom o (some ⟨option, some text⟩) texts
      | _ => .error .unknownArgument

/-- The options of a command line, which has to name an input. -/
def Options.ofArguments (arguments : List String) : Except Refusal Options := do
  let o ← readFrom {} none arguments
  if o.input.isNone then .error .missingOption else .ok o

end ApiSurface.Command
