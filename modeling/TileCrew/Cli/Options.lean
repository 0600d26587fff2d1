/-
Command-line options. Arguments are first told apart one by one (`Word`): a name of an option, a beginning of exactly one
long name, and either of them with `=` and a value; all else is a value, as is a negative number or what holds a space.
Then options take what they need, in turn. An option that takes a value takes the word after it, or what follows its `=`;
a separator there leaves it without a value (`Given.nothing`), which is a fault only where the value is needed. The letter
of help may be repeated. The first fault ends the reading; values that no option takes are complained about at the end,
together.
-/
import TileCrew.Files.Path
import TileCrew.Text.Numeral
import TileCrew.Text.Quoted
import TileCrew.World.Run

namespace TileCrew

/-- what an option is given: a value, or nothing by a separator in its place -/
inductive Given (α : Type) where
  | value (a : α)
  | nothing
deriving DecidableEq, Repr

def Given.value? {α : Type} : Given α → Option α
  | .value a => some a
  | .nothing => none

/-- what the program is asked to do -/
structure Options where
  play : Bool := false
  script : Option Path := none
  ticks : Int := 600
  dt : Given Float := .value defaultFrame
  seed : Option (Given Int) := none
  world : Option (Given Path) := none
  replayDir : Given Path := .value (Path.ofText "replay")
  replay : Option (Given Path) := none
  every : Given Int := .value 60
  logLevel : Option String := none

namespace Options

inductive Name where
  | help
  | play
  | script
  | ticks
  | dt
  | seed
  | world
  | replayDir
  | replay
  | every
  | logLevel
deriving DecidableEq, Repr

def spellings : List (String × Name) :=
  [ ("-h", .help), ("--help", .help), ("--play", .play), ("--script", .script), ("--ticks", .ticks), ("--dt", .dt),
    ("--seed", .seed), ("--world", .world), ("--replay-dir", .replayDir), ("--replay", .replay), ("--every", .every),
    ("--log-level", .logLevel) ]

def Name.title (n : Name) : String := "/".intercalate ((spellings.filter (·.2 == n)).map (·.1))

def Name.takesValue : Name → Bool
  | .help | .play => false
  | _ => true

/-! ## Faults -/

/-- why arguments are refused, or that help is asked for instead -/
inductive Stop where
  | help
  | ambiguous (word : String) (spellings : List String)
  | noValue (n : Name)
  | uselessValue (n : Name) (value : String)
  | badValue (n : Name) (kind value : String)
  | leftOver (words : List String)
deriving DecidableEq, Repr

def about (n : Name) : String := "argument " ++ n.title ++ ": "

/-- the wording of a complaint; nothing for help -/
def Stop.message : Stop → String
  | .help => ""
  | .ambiguous word spellings => "ambiguous option: " ++ word ++ " could match " ++ ", ".intercalate spellings
  | .noValue n => about n ++ "expected one argument"
  | .uselessValue n value => about n ++ "ignored explicit argument " ++ Text.quoted value
  | .badValue n kind value => about n ++ "invalid " ++ kind ++ " value: " ++ Text.quoted value
  | .leftOver words => "unrecognized arguments: " ++ " ".intercalate words

/-! ## Telling words apart -/

/-- what stands behind an option in its own word: nothing, further letters behind its letter, a value behind `=` -/
inductive Tail where
  | nothing
  | letters (s : String)
  | value (s : String)
deriving DecidableEq, Repr

/-- an argument told apart -/
inductive Word where
  | value (s : String)
  | separator
  | option (n : Name) (tail : Tail)
  | unknown (s : String)
deriving DecidableEq, Repr

/-- the part before the first `=` and, if there is one, the part behind it -/
def cutEquals (cs : List Char) : List Char × Option (List Char) :=
  match cs.dropWhile (· ≠ '=') with
  | [] => (cs, none)
  | _ :: rest => (cs.takeWhile (· ≠ '='), some rest)

def tailOf : Option (List Char) → Tail
  | none => .nothing
  | some cs => .value (String.ofList cs)

def ofSpelling (cs : List Char) : Option Name := (spellings.find? (·.1.toList == cs)).map (·.2)

/-- a minus sign, then digits, or a point with digits behind it -/
def isNegativeNumber (cs : List Char) : Bool :=
  let isDigit (c : Char) : Bool := (Text.digitValue? c).isSome
  let cs := if cs.getLast? = some '\n' then cs.dropLast else cs
  match cs with
  | '-' :: rest =>
    match rest.dropWhile isDigit with
    | [] => !rest.isEmpty
    | '.' :: places => !places.isEmpty && places.all isDigit
    | _ => false
  | _ => false

/-- a word with a dash in front that is no option -/
def ofOther (cs : List Char) : Word :=
  if isNegativeNumber cs || cs.contains ' ' then .value (String.ofList cs) else .unknown (String.ofList cs)

/-- a word with two dashes in front: a long option in full or by its beginning -/
def ofLong (cs : List Char) : Except Stop Word :=
  let (name, behind) := cutEquals cs
  match spellings.filter fun s => name.isPrefixOf s.1.toList with
  | [] => .ok (ofOther cs)
  | [(_, n)] => .ok (.option n (tailOf behind))
  | many => .error (.ambiguous (String.ofList cs) (many.map (·.1)))

def tellApart (word : String) : Except Stop Word :=
  let cs := word.toList
  match cs with
  | '-' :: '-' :: rest =>
    if rest.isEmpty then .ok .separator
    else
      match ofSpelling cs, ofSpelling (cutEquals cs).1 with
      | some n, _ => .ok (.option n .nothing)
      | none, some n => .ok (.option n (tailOf (cutEquals cs).2))
      | none, none => ofLong cs
  | '-' :: letter :: rest =>
    match ofSpelling ['-', letter], rest with
    | some n, [] => .ok (.option n .nothing)
    | some n, ['='] => .ok (.option n (.value ""))
    | some n, '=' :: rest => .ok (.option n (.letters (String.ofList rest)))
    | some n, rest => .ok (.option n (.letters (String.ofList rest)))
    | none, _ => .ok (ofOther cs)
  | _ => .ok (.value word)

/-- words told apart, up to a separator; behind it all are values -/
def tellAllApart : List String → Except Stop (List Word)
  | [] => .ok []
  | word :: rest => do
    match ← tellApart word with
    | .separator => return .separator :: rest.map .value
    | w => return w :: (← tellAllApart rest)

/-! ## Taking values -/

def integerFor (n : Name) (s : String) : Except Stop Int :=
  match Text.readInteger s with
  | .ok v => .ok v
  | .error _ => .error (.badValue n "int" s)

def realFor (n : Name) (s : String) : Except Stop Float :=
  match Text.readReal? s with
  | some v => .ok v
  | none => .error (.badValue n "float" s)

def give (o : Options) (n : Name) (s : String) : Except Stop Options :=
  match n with
  | .help => .error .help
  | .play => .ok { o with play := true }
  | .script => .ok { o with script := some (Path.ofText s) }
  | .ticks => (integerFor n s).map fun v => { o with ticks := v }
  | .dt => (realFor n s).map fun v => { o with dt := .value v }
  | .seed => (integerFor n s).map fun v => { o with seed := some (.value v) }
  | .world => .ok { o with world := some (.value (Path.ofText s)) }
  | .replayDir => .ok { o with replayDir := .value (Path.ofText s) }
  | .replay => .ok { o with replay := some (.value (Path.ofText s)) }
  | .every => (integerFor n s).map fun v => { o with every := .value v }
  | .logLevel => .ok { o with logLevel := some s }

/-- an option given nothing: a run without end for the ticks; script and level are as if left out -/
def giveNothing (o : Options) : Name → Options
  | .help | .play => o
  | .script => { o with script := none }
  | .ticks => { o with ticks := 0 }
  | .dt => { o with dt := .nothing }
  | .seed => { o with seed := some .nothing }
  | .world => { o with world := some .nothing }
  | .replayDir => { o with replayDir := .nothing }
  | .replay => { o with replay := some .nothing }
  | .every => { o with every := .nothing }
  | .logLevel => { o with logLevel := none }

def giveBehind (o : Options) (n : Name) (s : String) : Except Stop Options :=
  if s = "--" then .ok (o.giveNothing n) else o.give n s

/-- what comes of letters behind the letter of help: help where they repeat it, else a complaint about the rest -/
def helpLetters (cs : List Char) : Stop :=
  match cs.dropWhile (· = 'h') with
  | [] => .help
  | rest => .uselessValue .help (String.ofList rest)

def take (o : Options) : List Word → Except Stop (Options × List String)
  | [] => .ok (o, [])
  | .value s :: rest => (take o rest).map fun r => (r.1, s :: r.2)
  | .separator :: rest => (take o rest).map fun r => (r.1, "--" :: r.2)
  | .unknown s :: rest => (take o rest).map fun r => (r.1, s :: r.2)
  | .option n tail :: rest =>
    match n.takesValue, tail with
    | false, .nothing => (o.give n "").bind fun o => take o rest
    | false, .letters s => .error (helpLetters s.toList)
    | false, .value s => .error (.uselessValue n s)
    | true, .value s | true, .letters s => (o.giveBehind n s).bind fun o => take o rest
    | true, .nothing =>
      match rest with
      | .value s :: rest => (o.give n s).bind fun o => take o rest
      | _ => .error (.noValue n)

/-- the options that arguments give -/
def read (arguments : List String) : Except Stop Options := do
  let words ← tellAllApart arguments
  let (o, leftOver) ← take {} words
  if leftOver.isEmpty then return o else .error (.leftOver leftOver)

end Options

end TileCrew
