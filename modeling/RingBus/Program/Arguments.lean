import RingBus.Config.File
import RingBus.Decimal.Reading

/-!
# Arguments

How a command line is read. Options stand before the name of a job or after it, and each may be
given once. A long option begins with two hyphens, a short one with one; several short ones may
share a hyphen. A value follows in the next argument, behind an equals sign, or right behind the
letter of a short option.
-/

namespace RingBus
namespace Program

/-! ## What can be asked for -/

structure ProduceOptions where
  service : String
  count : Nat := 10
  intervalMillis : Nat := 500
  /-- Takes the place of the configured number of slots. -/
  slots : Option Nat := none
  /-- Takes the place of the configured size of a slot. -/
  slotSize : Option Nat := none
  deriving DecidableEq, Repr

/-- What the program is asked to do. -/
inductive Job
  | daemon (socket : Option String)
  | produce (options : ProduceOptions)
  | consume (service : String) (max : Option Nat)
  | inspect (ring : String)
  | validate (file : String)
  deriving DecidableEq, Repr

/-- A job, and the configuration file to be used. -/
structure Invocation where
  config : String
  job : Job
  deriving DecidableEq, Repr

/-- What a command line comes to. -/
inductive Request
  | run (invocation : Invocation)
  | help
  | version
  | misuse
  deriving DecidableEq, Repr

/-! ## Options -/

/-- What stands behind an option. -/
inductive Kind
  | flag
  | text
  /-- A number below `2 ^ 64`, maybe with a plus sign. -/
  | long
  /-- A number below `2 ^ 32`, maybe with a sign. -/
  | word
  deriving DecidableEq, Repr

structure Switch where
  name : String
  letter : Option Char
  kind : Kind
  deriving DecidableEq, Repr

/-- Reads a number without a minus sign. -/
def natural? (text : String) : Option Nat :=
  let digits := match text.toList with
    | '+' :: digits => digits
    | digits => digits
  if digits = [] ∨ !digits.all Char.isDigit then none else some (Decimal.natOfDigits digits)

/-- Reads the number behind an option of a kind. -/
def Kind.number? (kind : Kind) (text : String) : Option Nat :=
  match kind with
  | .flag => none
  | .text => none
  | .long => (natural? text).filter (· < UInt64.size)
  | .word =>
    match text.toList with
    | '-' :: digits =>
      if digits.head? = some '+' then none
      else (natural? (String.ofList digits)).filter (· = 0)
    | _ => (natural? text).filter (· < UInt32.size)

/-- Whether a text can stand behind an option of a kind. -/
def Kind.accepts (kind : Kind) (text : String) : Bool :=
  match kind with
  | .flag => false
  | .text => true
  | kind => (kind.number? text).isSome

/-- The options and the other arguments that were given so far. -/
structure Given where
  options : List (Switch × String)
  others : List String

namespace Given

def nothing : Given := ⟨[], []⟩

/-- Takes an option in. Not a second time, and not with a value that cannot stand behind it. -/
def add? (g : Given) (s : Switch) (value : String) : Option Given :=
  if g.options.any (·.1 == s) || (s.kind != .flag && !s.kind.accepts value) then none
  else some { g with options := g.options ++ [(s, value)] }

def text? (g : Given) (name : String) : Option String :=
  (g.options.find? (·.1.name == name)).map Prod.snd

def number? (g : Given) (name : String) : Option Nat :=
  (g.options.find? (·.1.name == name)).bind fun (s, value) => s.kind.number? value

end Given

/-- What reading the options at one place comes to. -/
inductive Reading
  /-- The given options and arguments, and what is left if a job was named. -/
  | read (given : Given) (rest : List String)
  | help
  | version
  | misuse

/-- Where options stand: which there are, and whether a job is to be named there. -/
structure Place where
  switches : List Switch
  /-- In front of the name of a job. -/
  front : Bool
  /-- How many other arguments there are. -/
  others : Nat

/-- Reads the letters of short options. The value of the last one may be in the next argument. -/
def readLetters (place : Place) : List Char → Given → Option (Given × Option Switch) ⊕ Reading
  | [], g => .inl (some (g, none))
  | c :: rest, g =>
    match place.switches.find? fun s => s.letter == some c with
    | none =>
      if c = 'h' then .inr .help
      else if c = 'V' && place.front then .inr .version
      else .inr .misuse
    | some s =>
      if s.kind = .flag then
        match g.add? s "" with
        | some g => readLetters place rest g
        | none => .inr .misuse
      else
        match rest with
        | [] => .inl (some (g, some s))
        | '=' :: value => .inl ((g.add? s (String.ofList value)).map (·, none))
        | value => .inl ((g.add? s (String.ofList value)).map (·, none))

/-- Splits a long option at its equals sign. -/
def splitLong (cs : List Char) : String × Option String :=
  let name := cs.takeWhile (· != '=')
  (String.ofList name,
    if name.length = cs.length then none else some (String.ofList (cs.drop (name.length + 1))))

/-- Reads a long option. Its value may be in the next argument. -/
def readLong (place : Place) (cs : List Char) (g : Given) :
    Option (Given × Option Switch) ⊕ Reading :=
  let (name, value) := splitLong cs
  match place.switches.find? fun s => s.name == name with
  | none =>
    if name = "help" ∧ value = none then .inr .help
    else if name = "version" ∧ value = none ∧ place.front then .inr .version
    else .inr .misuse
  | some s =>
    match value with
    | some value => .inl (if s.kind = .flag then none else (g.add? s value).map (·, none))
    | none =>
      if s.kind = .flag then .inl ((g.add? s "").map (·, none)) else .inl (some (g, some s))

/-- Reads the arguments at one place. `pending` is an option whose value is next. -/
def readPlace (place : Place) : List String → Given → Option Switch → Reading
  | [], g, none => .read g []
  | [], _, some _ => .misuse
  | arg :: rest, g, pending =>
    let take : Option (Given × Option Switch) ⊕ Reading → Reading
      | .inl (some (g, next)) => readPlace place rest g next
      | .inl none => .misuse
      | .inr reading => reading
    match arg.toList, pending with
    | ['-', '-'], none =>
      if g.others.length + rest.length ≤ place.others then
        .read { g with others := g.others ++ rest } []
      else .misuse
    | '-' :: '-' :: cs, none => take (readLong place cs g)
    | '-' :: c :: cs, none => take (readLetters place (c :: cs) g)
    | '-' :: _ :: _, some _ => .misuse
    | _, some s => take (.inl ((g.add? s arg).map (·, none)))
    | _, none =>
      if place.front then .read { g with others := [arg] } rest
      else if g.others.length < place.others then
        readPlace place rest { g with others := g.others ++ [arg] } none
      else .misuse

/-! ## Jobs -/

/-- The options in front of a job. -/
def front : Place :=
  ⟨[⟨"config", some 'c', .text⟩, ⟨"verbose", some 'v', .flag⟩], true, 0⟩

def serviceSwitch : Switch :=
  ⟨"service", some 's', .text⟩

/-- What may stand behind the name of a job. -/
def placeOf? (job : String) : Option Place :=
  [("daemon", ⟨[⟨"socket", some 's', .text⟩], false, 0⟩),
   ("produce",
     ⟨[serviceSwitch, ⟨"count", some 'n', .long⟩, ⟨"interval-ms", some 'i', .long⟩,
       ⟨"slots", none, .word⟩, ⟨"slot-size", none, .word⟩], false, 0⟩),
   ("consume", ⟨[serviceSwitch, ⟨"max", some 'm', .long⟩], false, 0⟩),
   ("inspect", ⟨[], false, 1⟩),
   ("validate", ⟨[], false, 1⟩)].lookup job

/-- The job that is asked for, if nothing that it needs is missing. -/
def jobOf? (name : String) (g : Given) : Option Job :=
  match name, g.others with
  | "daemon", [] => some (.daemon (g.text? "socket"))
  | "produce", [] =>
    (g.text? "service").map fun service =>
      let standard : ProduceOptions := { service }
      .produce
        { service
          count := (g.number? "count").getD standard.count
          intervalMillis := (g.number? "interval-ms").getD standard.intervalMillis
          slots := g.number? "slots"
          slotSize := g.number? "slot-size" }
  | "consume", [] => (g.text? "service").map fun service => .consume service (g.number? "max")
  | "inspect", [ring] => some (.inspect ring)
  | "validate", [file] => some (.validate file)
  | _, _ => none

/-- Reads what stands behind the name of a job. -/
def readJob (config name : String) (args : List String) : Request :=
  match placeOf? name with
  | none => .misuse
  | some place =>
    match readPlace place args .nothing none with
    | .help => .help
    | .version => .version
    | .misuse => .misuse
    | .read g _ =>
      match jobOf? name g with
      | some job => .run ⟨config, job⟩
      | none => .misuse

/-- Whether help can be asked for about what these arguments name: the program itself, one of its
jobs, or the help. Nothing else has a name, and a job has no parts. -/
def isHelpTopic (args : List String) : Bool :=
  match args with
  | [] => true
  | [name] => name == "help" || (placeOf? name).isSome
  | _ => false

def Request.ofArguments (args : List String) : Request :=
  match readPlace front args .nothing none with
  | .help => .help
  | .version => .version
  | .misuse => .misuse
  | .read g rest =>
    match g.others with
    | ["help"] => if isHelpTopic rest then .help else .misuse
    | [name] => readJob ((g.text? "config").getD Config.defaultFile) name rest
    | _ => .misuse

end Program
end RingBus
